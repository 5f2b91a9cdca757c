import DelimiterScan.Unicode.BinaryProperty

/-!
# Blanks and comments in a pattern

Where white space does not count, a pattern may be spaced out and may hold comments from a `#` to
the end of the line.
-/

namespace DelimiterScan.Regex.Source

def isBlank (c : Char) : Bool := Unicode.BinaryProperty.whiteSpace.contains c.toNat

/-- Leaves out blanks and comments; `comment` tells whether the text begins inside one. -/
def dropBlanks (comment : Bool) : List Char → List Char
  | [] => []
  | c :: cs =>
    if comment then dropBlanks (c ≠ '\n') cs
    else if isBlank c then dropBlanks false cs
    else if c = '#' then dropBlanks true cs
    else c :: cs

/-- The text from the next character that counts on. -/
def skip (spaced : Bool) (cs : List Char) : List Char :=
  if spaced then dropBlanks false cs else cs

/-- The next character that counts behind one that has been seen but not passed. This look ahead
stops inside a comment: of the comment it leaves out the `#` and the blanks behind it alone. If
nothing is left then, it shows the character that stands there, whether it counts or not. -/
def peek? (spaced : Bool) (cs : List Char) : Option Char :=
  if !spaced then cs.head?
  else
    let shown :=
      match cs.dropWhile isBlank with
      | '#' :: comment => comment.dropWhile isBlank
      | shown => shown
    shown.head?.or cs.head?

/-- The characters that pass the test from here on, with blanks between them left out. -/
def collect (spaced : Bool) (test : Char → Bool) : (fuel : Nat) → List Char →
    List Char × List Char
  | 0, cs => ([], cs)
  | _ + 1, [] => ([], [])
  | fuel + 1, c :: cs =>
    if test c then
      let (taken, rest) := collect spaced test fuel (skip spaced cs)
      (c :: taken, rest)
    else ([], c :: cs)

end DelimiterScan.Regex.Source
