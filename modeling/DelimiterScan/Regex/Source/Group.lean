import DelimiterScan.Regex.Source.Blank
import DelimiterScan.Regex.Source.Mode
import DelimiterScan.Unicode.GeneralCategory

/-!
# The beginning of a group

Behind an opening parenthesis stands the body of a group, the name of the group, or switches:
those that end with a colon hold in the group, those that end with a parenthesis hold from there
to the end of the group around them.
-/

namespace DelimiterScan.Regex.Source

open DelimiterScan.Unicode

inductive Opening where
  /-- Switches for the rest of the body around it. -/
  | switches (mode : Mode)
  /-- A group, its body in the given mode. -/
  | group (mode : Mode) (name : Option (List Char))

def isNameChar (first : Bool) (c : Char) : Bool :=
  let letter := BinaryProperty.alphabetic.contains c.toNat
  if first then c = '_' || letter
  else
    c = '_' || c = '.' || c = '[' || c = ']' || letter ||
      [GeneralCategory.decimalNumber, GeneralCategory.letterNumber,
        GeneralCategory.otherNumber].any (·.contains c.toNat)

def readName (first : Bool) : List Char → Except Fault (List Char × List Char)
  | [] => .error .groupName
  | c :: cs =>
    if c = '>' then if first then .error .groupName else .ok ([], cs)
    else if !isNameChar first c then .error .groupName
    else do
      let (name, rest) ← readName false cs
      return (c :: name, rest)

/-- Reads the letters of switches. A letter comes once; a hyphen comes once and before a letter,
and turns off what is behind it. -/
def readSwitches (mode : Mode) (seen : List Char) (off dangling : Bool) :
    List Char → Except Fault (Opening × List Char)
  | [] => .error .groupFlags
  | ':' :: cs => if dangling then .error .groupFlags else .ok (.group mode none, cs)
  | ')' :: cs =>
    if dangling then .error .groupFlags
    else if seen.isEmpty then .error .repetitionMissing
    else .ok (.switches mode, cs)
  | '-' :: cs => if off then .error .groupFlags else readSwitches mode seen true true cs
  | c :: cs =>
    match mode.turn? c !off with
    | none => .error .groupFlags
    | some mode =>
      if seen.contains c then .error .groupFlags else readSwitches mode (c :: seen) off false cs

def readMarked (mode : Mode) (cs : List Char) : Except Fault (Opening × List Char) :=
  match cs with
  | '=' :: _ => .error .lookAround
  | '!' :: _ => .error .lookAround
  | '<' :: '=' :: _ => .error .lookAround
  | '<' :: '!' :: _ => .error .lookAround
  | 'P' :: '<' :: cs => do
    let (name, rest) ← readName true cs
    return (.group mode (some name), rest)
  | '<' :: cs => do
    let (name, rest) ← readName true cs
    return (.group mode (some name), rest)
  | cs => readSwitches mode [] false false cs

def readOpening (mode : Mode) (cs : List Char) : Except Fault (Opening × List Char) :=
  match skip mode.ignoreWhitespace cs with
  | '?' :: cs => readMarked mode cs
  | cs => .ok (.group mode none, cs)

end DelimiterScan.Regex.Source
