import DelimiterScan.Unicode.Property
import DelimiterScan.Unicode.SimpleFolding

/-!
# Named character classes

The classes that a pattern can name: digits, blanks and word characters, each for all of Unicode
and for ASCII alone, and the classes that stand between `[:` and `:]`.
-/

namespace DelimiterScan.Regex

open DelimiterScan.Unicode

inductive CharClass where
  | digit
  | space
  | word
  deriving DecidableEq

namespace CharClass

/-- Letters, marks, digits, connecting punctuation and the two controls that join letters. -/
def unicodeWord : RangeSet :=
  .unions [BinaryProperty.alphabetic, GeneralCategory.nonspacingMark,
    GeneralCategory.spacingMark, GeneralCategory.enclosingMark, GeneralCategory.decimalNumber,
    GeneralCategory.connectorPunctuation, BinaryProperty.joinControl]

def unicode : CharClass → RangeSet
  | digit => GeneralCategory.decimalNumber
  | space => BinaryProperty.whiteSpace
  | word => unicodeWord

def ascii : CharClass → RangeSet
  | digit => .ofText "30-39"
  | space => .ofText "9-D 20"
  | word => .ofText "30-39 41-5A 5F 61-7A"

/-- The class between `[:` and `:]` with the given name. -/
def bracketed? : String → Option RangeSet
  | "alnum" => some (.ofText "30-39 41-5A 61-7A")
  | "alpha" => some (.ofText "41-5A 61-7A")
  | "ascii" => some (.ofText "0-7F")
  | "blank" => some (.ofText "9 20")
  | "cntrl" => some (.ofText "0-1F 7F")
  | "digit" => some (.ofText "30-39")
  | "graph" => some (.ofText "21-7E")
  | "lower" => some (.ofText "61-7A")
  | "print" => some (.ofText "20-7E")
  | "punct" => some (.ofText "21-2F 3A-40 5B-60 7B-7E")
  | "space" => some (.ofText "9-D 20")
  | "upper" => some (.ofText "41-5A")
  | "word" => some (.ofText "30-39 41-5A 5F 61-7A")
  | "xdigit" => some (.ofText "30-39 41-46 61-66")
  | _ => none

end CharClass

end DelimiterScan.Regex
