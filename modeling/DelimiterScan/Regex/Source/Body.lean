import DelimiterScan.Regex.Source.Bracket
import DelimiterScan.Regex.Source.Group

/-!
# Reading a pattern

A pattern is read in one pass. The switches at each place are applied as it goes, so that what is
read is an expression whose meaning depends on nothing else. Nesting is counted along: groups,
repetitions, brackets, and lists of several alternatives or of several items are a level each.
-/

namespace DelimiterScan.Regex.Source

inductive Item where
  /-- Switches, which take nothing and cannot be repeated. -/
  | switches
  /-- An expression, with the depth that it was written with. -/
  | expr (e : Expr) (depth : Nat)

def Item.expr? : Item → Option Expr
  | switches => none
  | expr e _ => some e

def Item.depth : Item → Nat
  | switches => 0
  | expr _ depth => depth

def maxDepth : Nat := 250

/-- An expression with the depth that it was written with. -/
structure Read where
  expr : Expr
  depth : Nat

/-- The items of a sequence, the last one first, as one expression. -/
def closeSequence (items : List Item) : Read :=
  let depth := items.foldl (fun d item => max d item.depth) 0
  ⟨.sequence (items.reverse.filterMap Item.expr?),
    if 2 ≤ items.length then depth + 1 else depth⟩

/-- The alternatives of a body, the last one first, as one expression. -/
def closeChoice (branches : List Read) : Read :=
  let depth := branches.foldl (fun d branch => max d branch.depth) 0
  ⟨.choice (branches.reverse.map (·.expr)),
    if 2 ≤ branches.length then depth + 1 else depth⟩

def readLazy (cs : List Char) : Bool × List Char :=
  match cs with
  | '?' :: cs => (true, cs)
  | cs => (false, cs)

def readUpper (spaced : Bool) (cs : List Char) : Except Fault (Option Nat × List Char) :=
  match skip spaced cs with
  | '\x7d' :: rest => .ok (none, '\x7d' :: rest)
  | rest => do
    let (n, rest) ← readBound spaced rest
    return (some n, rest)

/-- Reads the upper bound of a repetition behind the lower one: the lower one again if there is no
comma. -/
def readGreatest (spaced : Bool) (least : Nat) (cs : List Char) :
    Except Fault (Option Nat × List Char) :=
  match cs with
  | ',' :: rest => readUpper spaced rest
  | rest => .ok (some least, rest)

def closeBounds (spaced : Bool) (least : Nat) (greatest : Option Nat) (cs : List Char) :
    Except Fault (Nat × Option Nat × Bool × List Char) :=
  match cs with
  | '\x7d' :: rest =>
    let (short, rest) := readLazy (skip spaced rest)
    if greatest.any (· < least) then .error .repetitionBounds
    else .ok (least, greatest, short, rest)
  | _ => .error .repetitionBounds

/-- Reads the bounds of a repetition, the opening brace being behind, and the mark behind it. -/
def readBounds (spaced : Bool) (cs : List Char) :
    Except Fault (Nat × Option Nat × Bool × List Char) := do
  let (least, rest) ← readBound spaced (skip spaced cs)
  let (greatest, rest) ← readGreatest spaced least rest
  closeBounds spaced least greatest rest

def repeatLast (mode : Mode) (items : List Item) (least : Nat) (greatest : Option Nat)
    (short : Bool) : Except Fault (List Item) :=
  match items with
  | .expr e depth :: items =>
    .ok (.expr (e.repeatOf least greatest (short == mode.swapGreed)) (depth + 1) :: items)
  | _ => .error .repetitionMissing

def dotSet (mode : Mode) : Except Fault Unicode.RangeSet :=
  if !mode.unicode then .error .splitsCharacters
  else if mode.dotMatchesNewLine then .ok Unicode.RangeSet.empty.complement
  else if mode.returnEndsLine then
    .ok ((Unicode.RangeSet.single '\n').union (.single '\r')).complement
  else .ok (Unicode.RangeSet.single '\n').complement

def startCondition (mode : Mode) : Look :=
  if !mode.multiLine then .textStart
  else if mode.returnEndsLine then .lineStartReturn
  else .lineStart

def endCondition (mode : Mode) : Look :=
  if !mode.multiLine then .textEnd
  else if mode.returnEndsLine then .lineEndReturn
  else .lineEnd

def escapedExpr (mode : Mode) : Escaped → Except Fault Expr
  | .literal c byte =>
    if byte && !mode.unicode && 0x80 ≤ c.toNat then .error .splitsCharacters
    else .ok (.chars (mode.literalSet c))
  | .set set => .ok (.chars set)
  | .look condition => .ok (.look condition)

def readAtom (mode : Mode) (cs : List Char) : Except Fault (Item × List Char) :=
  match cs with
  | [] => .error .escape
  | '.' :: cs => do return (.expr (.chars (← dotSet mode)) 0, cs)
  | '^' :: cs => .ok (.expr (.look (startCondition mode)) 0, cs)
  | '$' :: cs => .ok (.expr (.look (endCondition mode)) 0, cs)
  | '\\' :: cs => do
    let (escaped, rest) ← readEscape mode cs
    return (.expr (← escapedExpr mode escaped) 0, rest)
  | '[' :: cs => do
    let (nested, rest) ← readClass mode cs
    return (.expr (.chars nested.set) nested.depth, rest)
  | c :: cs => .ok (.expr (.chars (mode.literalSet c)) 0, cs)

def addName (names : List (List Char)) : Option (List Char) → Except Fault (List (List Char))
  | none => .ok names
  | some name => if names.contains name then .error .groupName else .ok (name :: names)

def repetitionOf? : Char → Option (Nat × Option Nat)
  | '?' => some (0, some 1)
  | '*' => some (0, none)
  | '+' => some (1, none)
  | _ => none

/-- Reads a body up to the end of the text or to a parenthesis that it does not open itself.
`branches` are the alternatives that are finished and `items` those of the one being read, the
last ones first. -/
def readBody : (fuel : Nat) → Mode → (names : List (List Char)) → (branches : List Read) →
    (items : List Item) → List Char → Except Fault (Read × List (List Char) × List Char)
  | 0, _, _, _, _, _ => .error .nesting
  | fuel + 1, mode, names, branches, items, cs =>
    let spaced := mode.ignoreWhitespace
    match skip spaced cs with
    | [] => .ok (closeChoice (closeSequence items :: branches), names, [])
    | ')' :: rest => .ok (closeChoice (closeSequence items :: branches), names, ')' :: rest)
    | '|' :: rest => readBody fuel mode names (closeSequence items :: branches) [] rest
    | '(' :: rest => do
      match ← readOpening mode rest with
      | (.switches mode, rest) => readBody fuel mode names branches (.switches :: items) rest
      | (.group inner name, rest) =>
        let names ← addName names name
        match ← readBody fuel inner names [] [] rest with
        | (body, names, ')' :: rest) =>
          readBody fuel mode names branches (.expr body.expr (body.depth + 1) :: items) rest
        | _ => .error .groupUnclosed
    | '\x7b' :: rest => do
      let (least, greatest, short, rest) ← readBounds spaced rest
      readBody fuel mode names branches (← repeatLast mode items least greatest short) rest
    | c :: rest =>
      match repetitionOf? c with
      | some (least, greatest) => do
        let (short, rest) := readLazy rest
        readBody fuel mode names branches (← repeatLast mode items least greatest short) rest
      | none => do
        let (item, rest) ← readAtom mode (c :: rest)
        readBody fuel mode names branches (item :: items) rest

def readWhole (flags : Flags) (source : List Char) : Except Fault Read := do
  match ← readBody (source.length + 1) (.ofFlags flags) [] [] [] source with
  | (body, _, []) => return body
  | _ => .error .groupUnopened

def read (flags : Flags) (source : List Char) : Except Fault Expr := do
  let body ← readWhole flags source
  if maxDepth < body.depth then .error .nesting else .ok body.expr

theorem read_eq_ok_iff {flags : Flags} {source : List Char} {e : Expr} :
    read flags source = .ok e ↔
      ∃ body, readWhole flags source = .ok body ∧ body.depth ≤ maxDepth ∧ e = body.expr := by
  unfold read
  rw [guarded_eq_ok_iff]
  simp only [Nat.not_lt]

end DelimiterScan.Regex.Source
