import DelimiterScan.Unicode.RangeSet

/-!
# Reading JSON text

The reader accepts the grammar of JSON and nothing else: no comma behind the last item, no leading
zero, no control character inside a string, nothing behind the value but blanks. A string may spell
half of a surrogate pair, which is no character; such a string can be passed over but not used.
-/

namespace DelimiterScan.Json

open DelimiterScan.Text (hexValue?)

/-- A value. Numbers are kept by their text; a string is none if it spells no text. -/
inductive Value where
  | null
  | bool (b : Bool)
  | number (text : List Char)
  | string (s : Option String)
  | array (items : List Value)
  | object (fields : List (Option String × Value))
  deriving Inhabited

def skipBlanks (cs : List Char) : List Char :=
  cs.dropWhile fun c => c = ' ' || c = '\t' || c = '\n' || c = '\r'

/-! ## Strings -/

/-- A part of a string: a character, or a unit of sixteen bits given by its code. -/
inductive Piece where
  | char (c : Char)
  | unit (n : Nat)

def unit? (a b c d : Char) : Option Nat := do
  return ((16 * (← hexValue? a) + (← hexValue? b)) * 16 + (← hexValue? c)) * 16 + (← hexValue? d)

/-- The character behind a backslash stands for another one. -/
def escaped? : Char → Option Char
  | '\x22' => some '\x22'
  | '\\' => some '\\'
  | '/' => some '/'
  | 'b' => some '\x08'
  | 'f' => some '\x0c'
  | 'n' => some '\n'
  | 'r' => some '\r'
  | 't' => some '\t'
  | _ => none

def readPieces? : List Char → Option (List Piece × List Char)
  | [] => none
  | '\x22' :: cs => some ([], cs)
  | '\\' :: 'u' :: a :: b :: c :: d :: cs => do
    let n ← unit? a b c d
    let (pieces, rest) ← readPieces? cs
    return (.unit n :: pieces, rest)
  | '\\' :: e :: cs => do
    let c ← escaped? e
    let (pieces, rest) ← readPieces? cs
    return (.char c :: pieces, rest)
  | c :: cs => do
    if c < ' ' || c = '\\' then none
    else
      let (pieces, rest) ← readPieces? cs
      return (.char c :: pieces, rest)

/-- The text that the parts spell: two units can make a character together, and half of such a
pair spells none. -/
def spell? : List Piece → Option (List Char)
  | [] => some []
  | .char c :: pieces => (spell? pieces).map (c :: ·)
  | .unit n :: .unit m :: pieces =>
    if 0xD800 ≤ n ∧ n < 0xDC00 ∧ 0xDC00 ≤ m ∧ m < 0xE000 then
      (spell? pieces).map (Char.ofNat (0x10000 + (n - 0xD800) * 0x400 + (m - 0xDC00)) :: ·)
    else if n.isValidChar then (spell? (.unit m :: pieces)).map (Char.ofNat n :: ·)
    else none
  | .unit n :: pieces =>
    if n.isValidChar then (spell? pieces).map (Char.ofNat n :: ·) else none

def readString? (cs : List Char) : Option (Option String × List Char) :=
  (readPieces? cs).map fun (pieces, rest) => ((spell? pieces).map String.ofList, rest)

/-! ## Numbers -/

def readDigits? (cs : List Char) : Option (List Char × List Char) :=
  match cs.span Char.isDigit with
  | ([], _) => none
  | (digits, rest) => some (digits, rest)

def readNumber? (cs : List Char) : Option (List Char × List Char) := do
  let (sign, cs) :=
    match cs with
    | '-' :: cs => (['-'], cs)
    | cs => ([], cs)
  let (whole, cs) ←
    match cs with
    | '0' :: cs => some (['0'], cs)
    | cs => readDigits? cs
  let (fraction, cs) ←
    match cs with
    | '.' :: cs => (readDigits? cs).map fun (digits, rest) => ('.' :: digits, rest)
    | cs => some ([], cs)
  let (exponent, cs) ←
    match cs with
    | e :: cs' =>
      if e = 'e' || e = 'E' then
        let (sign, cs') :=
          match cs' with
          | '+' :: cs => (['+'], cs)
          | '-' :: cs => (['-'], cs)
          | cs => ([], cs)
        (readDigits? cs').map fun (digits, rest) => (e :: sign ++ digits, rest)
      else some ([], cs)
    | [] => some ([], [])
  return (sign ++ whole ++ fraction ++ exponent, cs)

/-! ## Values -/

def readWord? (word : String) (value : Value) (cs : List Char) : Option (Value × List Char) :=
  if word.toList.isPrefixOf cs then some (value, cs.drop word.length) else none

mutual

def readValue? : (fuel : Nat) → List Char → Option (Value × List Char)
  | 0, _ => none
  | fuel + 1, cs =>
    match skipBlanks cs with
    | '\x22' :: cs => (readString? cs).map fun (s, rest) => (.string s, rest)
    | '[' :: cs =>
      match skipBlanks cs with
      | ']' :: rest => some (.array [], rest)
      | cs => (readItems? fuel cs).map fun (items, rest) => (.array items, rest)
    | '\x7b' :: cs =>
      match skipBlanks cs with
      | '\x7d' :: rest => some (.object [], rest)
      | cs => (readFields? fuel cs).map fun (fields, rest) => (.object fields, rest)
    | 'n' :: cs => readWord? "ull" .null cs
    | 't' :: cs => readWord? "rue" (.bool true) cs
    | 'f' :: cs => readWord? "alse" (.bool false) cs
    | cs => (readNumber? cs).map fun (text, rest) => (.number text, rest)

def readItems? : (fuel : Nat) → List Char → Option (List Value × List Char)
  | 0, _ => none
  | fuel + 1, cs => do
    let (item, rest) ← readValue? fuel cs
    match skipBlanks rest with
    | ']' :: rest => return ([item], rest)
    | ',' :: rest =>
      let (items, rest) ← readItems? fuel rest
      return (item :: items, rest)
    | _ => none

def readFields? : (fuel : Nat) → List Char → Option (List (Option String × Value) × List Char)
  | 0, _ => none
  | fuel + 1, cs => do
    match skipBlanks cs with
    | '\x22' :: cs =>
      let (name, rest) ← readString? cs
      match skipBlanks rest with
      | ':' :: rest =>
        let (value, rest) ← readValue? fuel rest
        match skipBlanks rest with
        | '\x7d' :: rest => return ([(name, value)], rest)
        | ',' :: rest =>
          let (fields, rest) ← readFields? fuel rest
          return ((name, value) :: fields, rest)
        | _ => none
      | _ => none
    | _ => none

end

def Value.ofText? (text : String) : Option Value :=
  let cs := text.toList
  match readValue? (cs.length + 1) cs with
  | some (value, rest) => if (skipBlanks rest).isEmpty then some value else none
  | none => none

end DelimiterScan.Json
