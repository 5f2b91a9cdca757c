import DelimiterScan.Scan.Boundary
import DelimiterScan.TokenBuffer

/-!
# State of a scan

A scan gathers tokens between cuts and keeps track of what is open. Comments are kept twice, with
their token and in a list of all.
-/

namespace DelimiterScan

/-- Where a scan was stopped: the text that did it, its offset, and the text from there on. -/
structure Stop where
  matched : String
  offset : Nat
  rest : String
  deriving DecidableEq, Repr

/-- What a scan has gathered and what is open. -/
structure State where
  /-- The open blocks, the innermost first. -/
  nesting : List Block := []
  openQuote : Option String := none
  openComment : Option Block := none
  /-- The greatest number of blocks that were open at a time. -/
  maxDepth : Nat := 0
  comments : List String := []
  buffer : TokenBuffer := {}
  /-- The matched text of each cut; a cut at the boundary of a block has none. -/
  cuts : Array (Option String) := #[]
  /-- The offsets of the cuts at delimiters, with the matched texts. -/
  cutsAt : Array (Nat × String) := #[]
  stop : Option Stop := none
  deriving Inhabited

namespace State

def ensureToken (s : State) : State := { s with buffer := s.buffer.ensure }

def addText (s : State) (text : String) : State :=
  { s with buffer := s.buffer.modify (·.addText text) }

def beginComment (s : State) : State :=
  { s with
    buffer := s.buffer.modify Token.beginComment
    comments := s.comments ++ [""] }

def addComment (s : State) (text : String) : State :=
  { s with
    buffer := s.buffer.modify (·.addComment text)
    comments := appendToLast s.comments text }

def cut (s : State) (matched : Option String) : State :=
  { s with buffer := s.buffer.cut, cuts := s.cuts.push matched }

def noteMatch (s : State) (offset : Nat) (matched : String) : State :=
  { s with cutsAt := s.cutsAt.push (offset, matched) }

def atQuote (s : State) : Boundary String → State
  | .none => s
  | .opens mark => { s with openQuote := some mark }
  | .closes _ => { s with openQuote := none }

def atComment (s : State) : Boundary Block → State
  | .none => s
  | .opens comment => { s with openComment := some comment }
  | .closes _ => { s with openComment := none }

def atBlock (s : State) : Boundary Block → State
  | .none => s
  | .opens block =>
    { s with
      nesting := block :: s.nesting
      maxDepth := max s.maxDepth (s.nesting.length + 1) }
  | .closes _ => { s with nesting := s.nesting.tail }

def depth (s : State) : Nat := s.nesting.length

end State

end DelimiterScan
