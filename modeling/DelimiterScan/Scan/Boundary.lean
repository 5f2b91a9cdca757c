import DelimiterScan.Block
import DelimiterScan.Text.Measure

/-!
# Boundaries of regions

At each place of the text a scan asks whether a quotation, a comment or a block begins or ends
there. The first marker of a table that opens or closes something decides. An empty marker never
stands anywhere.
-/

namespace DelimiterScan

/-- What happens to a kind of region where a scan stands. -/
inductive Boundary (ρ : Type) where
  | none
  | opens (region : ρ)
  | closes (region : ρ)
  deriving DecidableEq, Repr

namespace Boundary

def isClosing {ρ : Type} : Boundary ρ → Bool
  | closes _ => true
  | _ => false

def quoteMark? : Boundary String → Option String
  | none => Option.none
  | opens mark => some mark
  | closes mark => some mark

def marker? : Boundary Block → Option String
  | none => Option.none
  | opens block => some block.start
  | closes block => some block.finish

def marked (rest : List Char) (marker : String) : Bool :=
  marker ≠ "" && Text.startsWith rest marker

/-- The boundary of a quotation: a mark closes the quotation that it opened. -/
def ofQuotes (quotes : List String) (openQuote : Option String) (rest : List Char) :
    Boundary String :=
  match openQuote with
  | some mark => if marked rest mark then closes mark else none
  | Option.none =>
    match quotes.find? (marked rest) with
    | some mark => opens mark
    | Option.none => none

def ofComments (comments : List Block) (openComment : Option Block) (rest : List Char) :
    Boundary Block :=
  match openComment with
  | some comment => if marked rest comment.finish then closes comment else none
  | Option.none =>
    match comments.find? (marked rest ·.start) with
    | some comment => opens comment
    | Option.none => none

/-- What a block of the table does here: it opens, or its end marker closes the innermost open
block, if that has the same one. -/
def ofBlock? (nesting : List Block) (rest : List Char) (block : Block) :
    Option (Boundary Block) :=
  if marked rest block.start then some (opens block)
  else
    match nesting with
    | [] => Option.none
    | innermost :: _ =>
      if block.finish = innermost.finish ∧ marked rest block.finish then some (closes innermost)
      else Option.none

/-- The boundary of a block; `nesting` are the open ones, the innermost first. -/
def ofBlocks (blocks nesting : List Block) (rest : List Char) : Boundary Block :=
  (blocks.findSome? (ofBlock? nesting rest)).getD none

end Boundary

end DelimiterScan
