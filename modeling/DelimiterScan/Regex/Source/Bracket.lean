import DelimiterScan.Regex.Source.Escape

/-!
# Classes in brackets

A class lists characters, ranges and other classes; `&&`, `--` and `~~` combine what stands on
their sides, from left to right. The reader computes the set of characters as it goes, and how
deeply the class is nested.
-/

namespace DelimiterScan.Regex.Source

open DelimiterScan.Unicode

inductive SetOp where
  | intersection
  | difference
  | symmetricDifference

def SetOp.apply : SetOp → RangeSet → RangeSet → RangeSet
  | intersection, s, t => s.intersection t
  | difference, s, t => s.difference t
  | symmetricDifference, s, t => s.symmetricDifference t

/-- A set with the depth of the classes it was written with. -/
structure Nested where
  set : RangeSet
  depth : Nat

/-- The items of a class since its beginning or the last combining sign. -/
structure Items where
  set : RangeSet := .empty
  count : Nat := 0
  depth : Nat := 0

def Items.add (items : Items) (item : Nested) : Items :=
  ⟨items.set.union item.set, items.count + 1, max items.depth item.depth⟩

/-- All items together; a list of several is a level of its own. -/
def Items.close (items : Items) : Nested :=
  ⟨items.set, if 2 ≤ items.count then items.depth + 1 else items.depth⟩

/-- Combines what stands left of a sign, if there is one, with the items right of it. -/
def combine (mode : Mode) (left : Option (SetOp × Nested)) (items : Items) : Nested :=
  let right := items.close
  match left with
  | none => right
  | some (op, left) =>
    ⟨op.apply (mode.foldSet left.set) (mode.foldSet right.set), max left.depth right.depth + 1⟩

/-- A single character of a class. Without Unicode it has to be one of ASCII. -/
def singleInClass (mode : Mode) (c : Char) : Except Fault Char :=
  if mode.unicode || c.toNat < 0x80 then .ok c else .error .unicodeOff

def readPrimitive (mode : Mode) : List Char → Except Fault (Escaped × List Char)
  | [] => .error .classUnclosed
  | '\\' :: cs => readEscape mode cs
  | c :: cs => .ok (.literal c false, cs)

def primitiveSet (mode : Mode) : Escaped → Except Fault RangeSet
  | .literal c _ => (singleInClass mode c).map .single
  | .set set => .ok set
  | .look _ => .error .classEscape

def rangeEnd (mode : Mode) : Escaped → Except Fault Char
  | .literal c _ => singleInClass mode c
  | _ => .error .classRange

def readRange (mode : Mode) (low : Escaped) (cs : List Char) :
    Except Fault (RangeSet × List Char) := do
  let (high, rest) ← readPrimitive mode cs
  let low ← rangeEnd mode low
  let high ← rangeEnd mode high
  if high < low then .error .classRange else return (.range low high, rest)

/-- Reads what stands behind the character or the escape that an item begins with. A hyphen that is
followed by a bracket or another hyphen makes no range. -/
def readBehind (mode : Mode) (low : Escaped) (cs : List Char) :
    Except Fault (RangeSet × List Char) :=
  let spaced := mode.ignoreWhitespace
  match skip spaced cs with
  | [] => .error .classUnclosed
  | '-' :: behind =>
    if peek? spaced behind == some ']' || peek? spaced behind == some '-' then
      do return (← primitiveSet mode low, '-' :: behind)
    else readRange mode low (skip spaced behind)
  | rest => do return (← primitiveSet mode low, rest)

def readItem (mode : Mode) (cs : List Char) : Except Fault (RangeSet × List Char) := do
  let (low, rest) ← readPrimitive mode cs
  readBehind mode low rest

def namedUpTo? (mode : Mode) (negated : Bool) (cs : List Char) :
    Option (Except Fault RangeSet × List Char) :=
  match cs.dropWhile (· ≠ ':') with
  | ':' :: ']' :: rest =>
    (CharClass.bracketed? (String.ofList (cs.takeWhile (· ≠ ':')))).map fun set =>
      (mode.classSet negated set, rest)
  | _ => none

/-- Reads a class between `[:` and `:]`, the first bracket being behind; anything else is left to
be read as a nested class. -/
def namedInBrackets? (mode : Mode) (cs : List Char) :
    Option (Except Fault RangeSet × List Char) :=
  match cs with
  | ':' :: '^' :: cs => namedUpTo? mode true cs
  | ':' :: cs => namedUpTo? mode false cs
  | _ => none

/-- The hyphens at the beginning of a class, which stand for themselves. -/
def leadingHyphens (spaced : Bool) : (fuel : Nat) → Items → List Char → Items × List Char
  | fuel + 1, items, '-' :: cs =>
    leadingHyphens spaced fuel (items.add ⟨.single '-', 0⟩) (skip spaced cs)
  | _, items, cs => (items, cs)

/-- The items that stand for themselves only at the beginning of a class, hyphens or else a closing
bracket. -/
def firstItems (spaced : Bool) (cs : List Char) : Items × List Char :=
  match leadingHyphens spaced cs.length {} cs with
  | (items, ']' :: rest) =>
    if items.count = 0 then (items.add ⟨.single ']', 0⟩, skip spaced rest)
    else (items, ']' :: rest)
  | first => first

/-- Reads the beginning of a class behind its bracket: whether it is negated, and its first
items. -/
def openClass (spaced : Bool) (cs : List Char) : Bool × Items × List Char :=
  match skip spaced cs with
  | '^' :: cs => (true, firstItems spaced (skip spaced cs))
  | cs => (false, firstItems spaced cs)

/-- The combination that a character written twice stands for. -/
def SetOp.ofChar? : Char → Option SetOp
  | '&' => some .intersection
  | '-' => some .difference
  | '~' => some .symmetricDifference
  | _ => none

/-- The sign that the text begins with, and the text behind it. -/
def combiningSign? : List Char → Option (SetOp × List Char)
  | c :: d :: rest => if c = d then (SetOp.ofChar? c).map fun op => (op, rest) else none
  | _ => none

def readItems (mode : Mode) : (fuel : Nat) → Option (SetOp × Nested) → Items → List Char →
    Except Fault (Nested × List Char)
  | 0, _, _, _ => .error .classUnclosed
  | fuel + 1, left, items, cs =>
    let spaced := mode.ignoreWhitespace
    match skip spaced cs with
    | [] => .error .classUnclosed
    | ']' :: rest => .ok (combine mode left items, rest)
    | '[' :: rest =>
      match namedInBrackets? mode rest with
      | some (set, rest) => do readItems mode fuel left (items.add ⟨← set, 0⟩) rest
      | none => do
        let (negated, first, inside) := openClass spaced rest
        let (inner, rest) ← readItems mode fuel none first inside
        let set ← mode.classSet negated inner.set
        readItems mode fuel left (items.add ⟨set, inner.depth + 1⟩) rest
    | cs =>
      match combiningSign? cs with
      | some (op, rest) => readItems mode fuel (some (op, combine mode left items)) {} rest
      | none => do
        let (set, rest) ← readItem mode cs
        readItems mode fuel left (items.add ⟨set, 0⟩) rest

def readClass (mode : Mode) (cs : List Char) : Except Fault (Nested × List Char) := do
  let (negated, first, inside) := openClass mode.ignoreWhitespace cs
  let (inner, rest) ← readItems mode (cs.length + 1) none first inside
  return (⟨← mode.classSet negated inner.set, inner.depth + 1⟩, rest)

end DelimiterScan.Regex.Source
