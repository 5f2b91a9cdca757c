import DelimiterScan.Regex.Expr
import DelimiterScan.Regex.Source.Mode
import DelimiterScan.Regex.Source.Number

/-!
# Escapes in a pattern

A backslash takes the special meaning from a punctuation mark, or gives one to a letter.
-/

namespace DelimiterScan.Regex.Source

open DelimiterScan.Unicode

inductive Escaped where
  /-- A character; `byte` tells that its code was written in two digits. -/
  | literal (c : Char) (byte : Bool)
  /-- One of some characters. -/
  | set (set : RangeSet)
  /-- A condition on the position. -/
  | look (condition : Look)

def isMeta (c : Char) : Bool := "\\.+*?()|[]\x7b\x7d^$#&-~".toList.contains c

/-- Whether a backslash before the character gives the character itself: that holds of all of
ASCII but letters, digits and angle brackets. -/
def standsForItself (c : Char) : Bool :=
  isMeta c || (c.toNat < 0x80 && !c.isAlphanum && c ≠ '<' && c ≠ '>')

def namedChar? : Char → Option Char
  | 'a' => some '\x07'
  | 'f' => some '\x0c'
  | 't' => some '\t'
  | 'n' => some '\n'
  | 'r' => some '\r'
  | 'v' => some '\x0b'
  | _ => none

def namedClass? : Char → Option (CharClass × Bool)
  | 'd' => some (.digit, false)
  | 's' => some (.space, false)
  | 'w' => some (.word, false)
  | 'D' => some (.digit, true)
  | 'S' => some (.space, true)
  | 'W' => some (.word, true)
  | _ => none

def classOfLetter (mode : Mode) (named : CharClass) (negated : Bool) : Except Fault RangeSet :=
  if mode.unicode then
    .ok (if negated then named.unicode.complement else named.unicode)
  else if negated then .error .splitsCharacters
  else .ok named.ascii

/-! ## Properties -/

/-- Cuts at the first place where `mark` stands, and leaves the mark out. -/
def cutAt? (mark : List Char) : List Char → Option (List Char × List Char)
  | [] => none
  | c :: cs =>
    if mark.isPrefixOf (c :: cs) then some ([], (c :: cs).drop mark.length)
    else (cutAt? mark cs).map fun (before, after) => (c :: before, after)

/-- The code points meant by the text between the braces of a property. The sign between a
property and its value may be `!=`, `:` or `=`, and none of them negates. -/
def property? (text : List Char) : Option RangeSet :=
  match (cutAt? ['!', '='] text).or ((cutAt? [':'] text).or (cutAt? ['='] text)) with
  | some (name, value) => Property.ofValue? name value
  | none => Property.ofName? text

def readPropertyText (spaced : Bool) (cs : List Char) : Except Fault (List Char × List Char) :=
  match skip spaced cs with
  | '\x7b' :: cs =>
    match collect spaced (· ≠ '\x7d') cs.length (skip spaced cs) with
    | (text, _ :: rest) => .ok (text, rest)
    | (_, []) => .error .property
  | c :: rest => if c = '\\' then .error .property else .ok ([c], rest)
  | [] => .error .escape

def propertySet (mode : Mode) (negated : Bool) (text : List Char) : Except Fault RangeSet :=
  if !mode.unicode then .error .unicodeOff
  else
    match property? text with
    | none => .error .property
    | some set => mode.classSet negated set

def readProperty (mode : Mode) (negated : Bool) (cs : List Char) :
    Except Fault (Escaped × List Char) := do
  let (text, rest) ← readPropertyText mode.ignoreWhitespace cs
  return (.set (← propertySet mode negated text), rest)

/-! ## Word boundaries -/

def namedEdge? (name : List Char) : Option WordEdge :=
  match String.ofList name with
  | "start" => some .start
  | "end" => some .finish
  | "start-half" => some .startHalf
  | "end-half" => some .finishHalf
  | _ => none

def isEdgeNameChar (c : Char) : Bool := c.isAlpha || c = '-'

def closeEdge (name rest : List Char) : Except Fault (WordEdge × List Char) :=
  match rest with
  | '\x7d' :: rest =>
    match namedEdge? name with
    | some edge => .ok (edge, rest)
    | none => .error .boundary
  | _ => .error .boundary

/-- Reads the name of a boundary, the brace being behind. Braces that begin with anything but a name
belong to a repetition, and the boundary is the plain one. -/
def readEdgeName (spaced : Bool) (inside : List Char) : Except Fault (WordEdge × List Char) :=
  match skip spaced inside with
  | [] => .error .boundary
  | c :: name =>
    if !isEdgeNameChar c then .ok (.boundary, '\x7b' :: inside)
    else
      let (name, rest) := collect spaced isEdgeNameChar (name.length + 1) (c :: name)
      closeEdge name rest

def readEdge (spaced : Bool) (cs : List Char) : Except Fault (WordEdge × List Char) :=
  match cs with
  | '\x7b' :: inside => readEdgeName spaced inside
  | cs => .ok (.boundary, cs)

/-! ## All escapes -/

def readCoded (mode : Mode) (byte : Bool) (n : Nat) (cs : List Char) :
    Except Fault (Escaped × List Char) := do
  let cs := skip mode.ignoreWhitespace cs
  let (c, rest) ← readCode mode.ignoreWhitespace n cs
  return (.literal c (byte && cs.head? != some '\x7b'), rest)

/-- What a backslash before the character stands for, where nothing else belongs to the escape. -/
def escapeOf (mode : Mode) (c : Char) : Except Fault Escaped :=
  if c.isDigit then .error .backreference
  else if standsForItself c then .ok (.literal c false)
  else
    match namedClass? c, namedChar? c with
    | some (named, negated), _ => (classOfLetter mode named negated).map .set
    | none, some c => .ok (.literal c false)
    | none, none => .error .escape

def readEscape (mode : Mode) (cs : List Char) : Except Fault (Escaped × List Char) :=
  match cs with
  | [] => .error .escape
  | 'x' :: cs => readCoded mode true 2 cs
  | 'u' :: cs => readCoded mode false 4 cs
  | 'U' :: cs => readCoded mode false 8 cs
  | 'p' :: cs => readProperty mode false cs
  | 'P' :: cs => readProperty mode true cs
  | 'A' :: cs => .ok (.look .textStart, cs)
  | 'z' :: cs => .ok (.look .textEnd, cs)
  | 'b' :: cs => do
    let (edge, rest) ← readEdge mode.ignoreWhitespace cs
    return (.look (.word edge mode.unicode), rest)
  | 'B' :: cs => .ok (.look (.word .noBoundary mode.unicode), cs)
  | '<' :: cs => .ok (.look (.word .start mode.unicode), cs)
  | '>' :: cs => .ok (.look (.word .finish mode.unicode), cs)
  | c :: cs => do return (← escapeOf mode c, cs)

end DelimiterScan.Regex.Source
