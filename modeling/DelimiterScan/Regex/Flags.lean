/-!
# Flags of a pattern

A pattern is compiled under four switches, which are given as letters: `i`, `m`, `s` and `x`. The
letters `g`, `u` and `y` are accepted and mean nothing here.
-/

namespace DelimiterScan.Regex

/-- The switches that hold for a whole pattern. -/
structure Flags where
  caseInsensitive : Bool := false
  multiLine : Bool := false
  dotMatchesNewLine : Bool := false
  ignoreWhitespace : Bool := false
  deriving DecidableEq, Repr, Inhabited

namespace Flags

def turnOn? (flags : Flags) (letter : Char) : Option Flags :=
  match letter with
  | 'i' => some { flags with caseInsensitive := true }
  | 'm' => some { flags with multiLine := true }
  | 's' => some { flags with dotMatchesNewLine := true }
  | 'x' => some { flags with ignoreWhitespace := true }
  | 'g' | 'u' | 'y' => some flags
  | _ => none

/-- Turns on the switches of all letters; fails with the first letter that is not known. -/
def turnOnAll (flags : Flags) : List Char → Except Char Flags
  | [] => .ok flags
  | letter :: letters =>
    match flags.turnOn? letter with
    | none => .error letter
    | some flags => flags.turnOnAll letters

def ofText (text : String) : Except Char Flags := turnOnAll {} text.toList

/-- The letters of the switches that are on, in the order `imsx`. -/
def text (flags : Flags) : String :=
  String.ofList <|
    (if flags.caseInsensitive then ['i'] else []) ++
    (if flags.multiLine then ['m'] else []) ++
    (if flags.dotMatchesNewLine then ['s'] else []) ++
    (if flags.ignoreWhitespace then ['x'] else [])

/-- The order of flags: switch by switch, off before on. -/
def rank (flags : Flags) : Nat :=
  8 * flags.caseInsensitive.toNat + 4 * flags.multiLine.toNat +
    2 * flags.dotMatchesNewLine.toNat + flags.ignoreWhitespace.toNat

def describe (flags : Flags) : String :=
  "RegexFlags \x7b case_insensitive: " ++ toString flags.caseInsensitive ++
    ", multi_line: " ++ toString flags.multiLine ++
    ", dot_matches_new_line: " ++ toString flags.dotMatchesNewLine ++
    ", ignore_whitespace: " ++ toString flags.ignoreWhitespace ++ " \x7d"

end Flags

end DelimiterScan.Regex
