import DelimiterScan.Regex.Fault
import DelimiterScan.Regex.Source.Blank

/-!
# Numbers in a pattern

Bounds of repetitions are decimal and stay below 2^32; codes of characters are hexadecimal.
-/

namespace DelimiterScan.Regex.Source

open DelimiterScan.Text (hexValue?)

/-- The number with the given digits; what is no digit counts as zero. -/
def ofDigits (base : Nat) (digits : List Char) : Nat :=
  digits.foldl (fun n c => base * n + (hexValue? c).getD 0) 0

def readBound (spaced : Bool) (cs : List Char) : Except Fault (Nat × List Char) :=
  let (digits, rest) := collect spaced Char.isDigit cs.length (cs.dropWhile isBlank)
  let rest := skip spaced (rest.dropWhile isBlank)
  if digits.isEmpty || ofDigits 10 digits ≥ UInt32.size then .error .repetitionBounds
  else .ok (ofDigits 10 digits, rest)

def charOfCode (digits : List Char) : Except Fault Char :=
  let code := ofDigits 16 digits
  if !digits.isEmpty && code.isValidChar then .ok (Char.ofNat code) else .error .characterCode

def readHexDigits (spaced : Bool) : Nat → List Char → Except Fault (List Char × List Char)
  | 0, cs => .ok ([], cs)
  | _ + 1, [] => .error .characterCode
  | n + 1, c :: cs => do
    if (hexValue? c).isNone then .error .characterCode
    else
      let (digits, rest) ← readHexDigits spaced n (skip spaced cs)
      return (c :: digits, rest)

/-- Reads the code of a character: as many digits as `n`, or any number of them in braces. -/
def readCode (spaced : Bool) (n : Nat) (cs : List Char) : Except Fault (Char × List Char) :=
  match cs with
  | '\x7b' :: cs =>
    match collect spaced (hexValue? · |>.isSome) cs.length (skip spaced cs) with
    | (digits, '\x7d' :: rest) => do return (← charOfCode digits, skip spaced rest)
    | _ => .error .characterCode
  | cs => do
    let (digits, rest) ← readHexDigits spaced n cs
    return (← charOfCode digits, rest)

end DelimiterScan.Regex.Source
