import DelimiterScan.Regex.Flags
import DelimiterScan.Unicode.SimpleFolding
import DelimiterScan.Regex.Fault

/-!
# Modes

The switches that hold at a place of a pattern. They begin as the flags of the whole pattern, and
a group can turn each of them on or off from where it stands.
-/

namespace DelimiterScan.Regex

open DelimiterScan.Unicode

/-- The switches that hold at a place of a pattern. -/
structure Mode where
  caseInsensitive : Bool := false
  multiLine : Bool := false
  dotMatchesNewLine : Bool := false
  /-- Repetitions are short unless marked, instead of long. -/
  swapGreed : Bool := false
  /-- Classes and boundaries reach beyond ASCII. -/
  unicode : Bool := true
  /-- A carriage return ends a line too. -/
  returnEndsLine : Bool := false
  ignoreWhitespace : Bool := false

namespace Mode

def ofFlags (flags : Flags) : Mode where
  caseInsensitive := flags.caseInsensitive
  multiLine := flags.multiLine
  dotMatchesNewLine := flags.dotMatchesNewLine
  ignoreWhitespace := flags.ignoreWhitespace

def turn? (mode : Mode) (letter : Char) (on : Bool) : Option Mode :=
  match letter with
  | 'i' => some { mode with caseInsensitive := on }
  | 'm' => some { mode with multiLine := on }
  | 's' => some { mode with dotMatchesNewLine := on }
  | 'U' => some { mode with swapGreed := on }
  | 'u' => some { mode with unicode := on }
  | 'R' => some { mode with returnEndsLine := on }
  | 'x' => some { mode with ignoreWhitespace := on }
  | _ => none

/-- The set with the other cases of its characters, where case does not count. -/
def foldSet (mode : Mode) (set : RangeSet) : RangeSet :=
  if !mode.caseInsensitive then set
  else if mode.unicode then SimpleFolding.close set
  else SimpleFolding.closeAscii set

/-- The set meant by a class in brackets: case is looked at before the class is negated. Without
Unicode it has to stay within ASCII. -/
def classSet (mode : Mode) (negated : Bool) (set : RangeSet) : Except Fault RangeSet :=
  let folded := mode.foldSet set
  let meant := if negated then folded.complement else folded
  if mode.unicode || meant.isAscii then .ok meant else .error .splitsCharacters

def literalSet (mode : Mode) (c : Char) : RangeSet :=
  if !mode.caseInsensitive then .single c
  else if mode.unicode then
    .ofRanges ((c :: SimpleFolding.others c).map fun d => (d.toNat, d.toNat))
  else SimpleFolding.closeAscii (.single c)

end Mode

end DelimiterScan.Regex
