import DelimiterScan.Scan
import Mathlib.Algebra.Group.Nat.Defs

/-!
# Scans with offsets and indices

The same scan over machine numbers. The cursor is an offset in bytes, open regions are indices
into the tables of the options, and the tokens are one list. A slice is taken at offsets, an entry
of a table at an index, and offsets are added as numbers of 64 bits. Each of these is a fault where
it is not defined, and so is a step too many. In `Indexed.Faultless` no fault is reached, and the
result is that of `scan`.
-/

namespace DelimiterScan.Indexed

/-- Why a scan breaks off. -/
inductive Fault where
  /-- A slice begins or ends inside a character or behind the end of the text. -/
  | slice
  /-- An index is not one of the table. -/
  | index
  /-- A sum has more than 64 bits. -/
  | overflow
  /-- There is no character boundary up to the end of the text. -/
  | boundary
  /-- The scan takes more steps than it is given. -/
  | unending
  deriving DecidableEq, Repr

/-! ## Operations that may fault -/

def entry {α : Type} (table : List α) (i : Nat) : Except Fault α :=
  match table[i]? with
  | some a => .ok a
  | none => .error .index

def splitAt (text : List Char) (offset : Nat) : Except Fault (List Char × List Char) :=
  match Text.takeBytes? offset text with
  | some before => .ok (before, text.drop before.length)
  | none => .error .slice

def slice (text : List Char) (i j : Nat) : Except Fault (List Char) :=
  if j < i then .error .slice
  else do
    let (_, rest) ← splitAt text i
    let (piece, _) ← splitAt rest (j - i)
    return piece

/-- The first character of a text, as the slice of its bytes. -/
def firstChar (rest : List Char) : Except Fault String := do
  let width := match rest with
    | [] => 0
    | c :: _ => c.utf8Size
  let (c, _) ← splitAt rest width
  return String.ofList c

/-- The sum of two numbers of 64 bits. -/
def add (a b : Nat) : Except Fault Nat :=
  if a + b < 2 ^ 64 then .ok (a + b) else .error .overflow

/-- The first character boundary from an offset on, among as many offsets as `fuel` and one. -/
def boundaryFrom (text : List Char) : (fuel : Nat) → (offset : Nat) → Except Fault Nat
  | 0, offset => if (Text.takeBytes? offset text).isSome then .ok offset else .error .boundary
  | fuel + 1, offset =>
    if (Text.takeBytes? offset text).isSome then .ok offset
    else do
      let next ← add offset 1
      boundaryFrom text fuel next

/-- The offset behind a step of a width: a byte or more, not behind the end, and at a boundary. -/
def advance (input : String) (i width : Nat) : Except Fault Nat := do
  let far ← add i (max width 1)
  let next := min far input.utf8ByteSize
  boundaryFrom input.toList (input.utf8ByteSize - next) next

/-! ## States -/

/-- What a scan has gathered, and the indices of what is open. -/
structure State where
  /-- The open blocks as indices, the innermost first. -/
  nesting : List Nat := []
  openQuote : Option Nat := none
  openComment : Option Nat := none
  maxDepth : Nat := 0
  comments : List String := []
  /-- The tokens, also the current one once it is begun. -/
  tokens : List Token := []
  cuts : Array (Option String) := #[]
  cutsAt : Array (Nat × String) := #[]
  stop : Option Stop := none

namespace State

/-- Changes the token behind the last cut. Tokens up to it are begun where they are missing. -/
def modifyToken (m : State) (f : Token → Token) : Except Fault State := do
  let tokens := m.tokens ++ List.replicate (m.cuts.size + 1 - m.tokens.length) ({} : Token)
  let token ← entry tokens m.cuts.size
  return { m with tokens := tokens.set m.cuts.size (f token) }

def ensureToken (m : State) : Except Fault State := m.modifyToken id

def addText (m : State) (text : String) : Except Fault State := m.modifyToken (·.addText text)

def beginComment (m : State) : Except Fault State := do
  let m ← m.modifyToken Token.beginComment
  return { m with comments := m.comments ++ [""] }

def addComment (m : State) (text : String) : Except Fault State := do
  let m ← m.modifyToken (·.addComment text)
  return { m with comments := appendToLast m.comments text }

def cut (m : State) (matched : Option String) : State := { m with cuts := m.cuts.push matched }

end State

/-! ## What stands at the cursor -/

/-- What a quotation or comment of the table does here, from the entry `i` on: the first one
opens, or the first with the end marker of the open one closes that. -/
def regionFrom (table : List Block) (rest : List Char) (opened : Option Nat) :
    (i : Nat) → List Block → Except Fault (Boundary String × Option Nat)
  | _, [] => .ok (.none, opened)
  | i, k :: more =>
    match opened with
    | none =>
      if Boundary.marked rest k.start then .ok (.opens k.start, some i)
      else regionFrom table rest opened (i + 1) more
    | some j =>
      if k.finish = "" then regionFrom table rest opened (i + 1) more
      else do
        let current ← entry table j
        if k.finish = current.finish ∧ Text.startsWith rest k.finish then
          return (.closes k.finish, none)
        else regionFrom table rest opened (i + 1) more

/-- What a block of the table does here, from the entry `i` on, with the open blocks behind it. -/
def blockFrom (table : List Block) (rest : List Char) (nesting : List Nat) :
    (i : Nat) → List Block → Except Fault (Boundary String × List Nat)
  | _, [] => .ok (.none, nesting)
  | i, k :: more =>
    if Boundary.marked rest k.start then .ok (.opens k.start, i :: nesting)
    else
      match nesting with
      | [] => blockFrom table rest nesting (i + 1) more
      | top :: outer =>
        if k.finish = "" then blockFrom table rest nesting (i + 1) more
        else do
          let innermost ← entry table top
          if k.finish = innermost.finish ∧ Text.startsWith rest k.finish then
            return (.closes k.finish, outer)
          else blockFrom table rest nesting (i + 1) more

def matchAt (d : Delimiter) (input : String) (offset : Nat) (tokens : List Token)
    (caseInsensitive : Bool) : Except Fault (Option String) := do
  let (before, rest) ← splitAt input.toList offset
  match d with
  | .literal text =>
    return if Delimiter.literalStandsAt text rest caseInsensitive then some text else none
  | .pattern p => return (p.find? rest).map String.ofList
  | .predicate p => return p.test (String.ofList before) (String.ofList rest) tokens.toArray

def firstMatchAt (input : String) (offset : Nat) (tokens : List Token) (caseInsensitive : Bool) :
    List Delimiter → Except Fault (Option String)
  | [] => .ok none
  | d :: ds => do
    match ← matchAt d input offset tokens caseInsensitive with
    | some matched => return some matched
    | none => firstMatchAt input offset tokens caseInsensitive ds

/-! ## Steps -/

def plain (m : State) (text : String) : Except Fault (State × Nat) := do
  let m ← m.addText text
  return (m, text.utf8ByteSize)

/-- Goes on behind a step whose width is known. -/
def pass (input : String) (i : Nat) (stepped : State × Nat) :
    Except Fault (State × Option Nat) := do
  let next ← advance input i stepped.2
  return (stepped.1, some next)

/-- In a comment, or behind its end: the state and the width of the step. -/
def inComment (m : State) (comment : Boundary String) (c : String) : Except Fault (State × Nat) :=
  let text := comment.quoteMark?.getD c
  if m.nesting.isEmpty then do
    let m ← match comment with
      | .opens _ => m.beginComment
      | .closes _ => pure m
      | .none => m.addComment c
    return (m, text.utf8ByteSize)
  else plain m text

/-- Without delimiters: the state and the width of the step. -/
def atBlockEdge (m : State) (block : Boundary String) (c : String) : Except Fault (State × Nat) :=
  let text := block.quoteMark?.getD c
  match block with
  | .opens _ => plain (if m.nesting.length = 2 then m.cut none else m) text
  | .closes _ => do
    let m ← m.addText text
    return (if m.nesting.length = 0 then m.cut none else m, text.utf8ByteSize)
  | .none => plain m text

/-- The state behind a cut at a match that passes the text up to `next`. -/
def cutAt (plan : Plan) (input : String) (m : State) (i next : Nat) (matched : String) :
    Except Fault State :=
  let m := { m with cutsAt := m.cutsAt.push (i, matched) }
  if plan.options.preserveDelimiters then do
    let text ← slice input.toList i next
    let m ← m.addText (String.ofList text)
    return m.cut (some matched)
  else
    let m := m.cut (some matched)
    if next = input.utf8ByteSize then m.ensureToken else .ok m

/-- Outside of blocks: the state and the next offset. -/
def atDelimiter (plan : Plan) (input : String) (m : State) (i : Nat) (c : String) :
    Except Fault (State × Option Nat) := do
  let m ← m.ensureToken
  match ← firstMatchAt input i m.tokens plan.options.caseInsensitive plan.delims with
  | none =>
    let stepped ← plain m c
    pass input i stepped
  | some matched =>
    let width := if matched = "" then c.utf8ByteSize else matched.utf8ByteSize
    let next ← advance input i width
    let m ← cutAt plan input m i next matched
    return (m, some next)

def stopAt (plan : Plan) (input : String) (m : State) (i : Nat) :
    Except Fault (Option String) :=
  if m.nesting.isEmpty then
    firstMatchAt input i m.tokens plan.options.caseInsensitive plan.stops
  else .ok none

def atBlock (plan : Plan) (input : String) (m : State) (i : Nat) (rest : List Char)
    (block : Boundary String) (c : String) : Except Fault (State × Option Nat) := do
  match ← stopAt plan input m i with
  | some matched => return ({ m with stop := some ⟨matched, i, String.ofList rest⟩ }, none)
  | none =>
    if plan.delims.isEmpty then
      let stepped ← atBlockEdge m block c
      pass input i stepped
    else if m.nesting.isEmpty && !block.isClosing then
      atDelimiter plan input m i c
    else
      let stepped ← plain m (block.quoteMark?.getD c)
      pass input i stepped

def inText (plan : Plan) (input : String) (m : State) (i : Nat) (rest : List Char) (c : String) :
    Except Fault (State × Option Nat) := do
  let (block, nesting) ← blockFrom plan.options.blocks rest m.nesting 0 plan.options.blocks
  let m := { m with nesting, maxDepth := max m.maxDepth nesting.length }
  atBlock plan input m i rest block c

def quoteRegion (mark : String) : Block := ⟨mark, mark⟩

def quoteAt (plan : Plan) (m : State) (rest : List Char) :
    Except Fault (Boundary String × Option Nat) :=
  if m.openComment.isNone then
    let table := plan.options.quotes.map quoteRegion
    regionFrom table rest m.openQuote 0 table
  else .ok (.none, m.openQuote)

def commentAt (plan : Plan) (m : State) (rest : List Char) :
    Except Fault (Boundary String × Option Nat) :=
  if m.openQuote.isNone then
    regionFrom plan.options.comments rest m.openComment 0 plan.options.comments
  else .ok (.none, m.openComment)

def proceed (plan : Plan) (input : String) (m : State) (i : Nat) (rest : List Char)
    (quote comment : Boundary String) (c : String) : Except Fault (State × Option Nat) :=
  if m.openComment.isSome || comment.isClosing then do
    let stepped ← inComment m comment c
    pass input i stepped
  else if m.openQuote.isSome || quote.isClosing then do
    let stepped ← plain m (quote.quoteMark?.getD c)
    pass input i stepped
  else if plan.options.limit = some m.cuts.size then do
    let stepped ← plain m c
    pass input i stepped
  else inText plan input m i rest c

/-- One step from an offset: the state and the next offset, or none where the scan is over. -/
def step (plan : Plan) (input : String) (m : State) (i : Nat) :
    Except Fault (State × Option Nat) :=
  match splitAt input.toList i with
  | .error _ | .ok (_, []) => .ok (m, none)
  | .ok (_, c :: cs) => do
    let current ← firstChar (c :: cs)
    let (quote, openQuote) ← quoteAt plan m (c :: cs)
    let m := { m with openQuote }
    let (comment, openComment) ← commentAt plan m (c :: cs)
    proceed plan input { m with openComment } i (c :: cs) quote comment current

/-- Takes steps until the scan is over. More than `fuel` of them that go on are a fault. -/
def run (plan : Plan) (input : String) : (fuel : Nat) → State → Nat → Except Fault State
  | 0, m, i => do
    match ← step plan input m i with
    | (m, none) => return m
    | (_, some _) => .error .unending
  | fuel + 1, m, i => do
    match ← step plan input m i with
    | (m, none) => return m
    | (m, some next) => run plan input fuel m next

def verdict (m : State) (options : Options) (delims : List Delimiter) :
    Except Fault (Except ScanError ScanResult) :=
  if m.nesting.isEmpty then
    .ok (.ok {
      delims, options
      nesting := []
      maxDepth := m.maxDepth
      comments := m.comments
      tokens := m.tokens.toArray
      cuts := m.cuts
      cutsAt := m.cutsAt
      stop := m.stop })
  else do
    let unclosed ← m.nesting.reverse.mapM (entry options.blocks)
    return .error (.unterminatedBlock unclosed)

/-- Scans a text in as many steps as it has characters. -/
def scan (input : String) (options : Options) (delims : List Delimiter) :
    Except Fault (Except ScanError ScanResult) :=
  match Plan.make options delims with
  | .error e => .ok (.error e)
  | .ok plan => do
    let m ← run plan input input.toList.length {} 0
    let m ← m.ensureToken
    verdict m options delims

end DelimiterScan.Indexed
