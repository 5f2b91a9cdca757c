import DelimiterScan.Text.Quoted

/-!
# Blocks

A block is a pair of markers that surround text: brackets around a group, or the beginning and the
end of a comment. The tables hold the blocks, quotation marks and comments that a scan knows
unless it is told others.
-/

namespace DelimiterScan

/-- The markers around a region of text. -/
structure Block where
  start : String
  finish : String
  deriving DecidableEq, Repr, Inhabited

namespace Block

def defaultBlocks : List Block := [⟨"(", ")"⟩, ⟨"[", "]"⟩, ⟨"\x7b", "\x7d"⟩]

/-- Quotation marks; each closes what it opens. -/
def defaultQuotes : List String := ["\"", "'", "\x60"]

def defaultComments : List Block := [⟨"/*", "*/"⟩, ⟨"//", "\n"⟩]

/-- The block in a message: its first marker as it is, its second one in visible characters. -/
def display (b : Block) : String := b.start ++ "…" ++ Text.escape b.finish

def describe (b : Block) : String :=
  "Block \x7b start: " ++ Text.quote b.start ++ ", end: " ++ Text.quote b.finish ++ " \x7d"

def compare (a b : Block) : Ordering :=
  (Ord.compare a.start b.start).then (Ord.compare a.finish b.finish)

end Block

end DelimiterScan
