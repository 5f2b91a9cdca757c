/-!
# Reading UTF-8

A text that comes as bytes is read character by character. The first place where the bytes do not
go on as UTF-8 is a fault: either a byte that cannot stand there, or an end inside a character.
-/

namespace DelimiterScan.Text.Utf8

/-- Why bytes are no text. Both name the index of the first byte that belongs to no character. -/
inductive Fault where
  /-- The first `length` bytes from `index` on begin no character. -/
  | invalid (index length : Nat)
  /-- The bytes end inside the character that begins at `index`. -/
  | incomplete (index : Nat)
  deriving DecidableEq, Repr

def Fault.message : Fault → String
  | .invalid index length =>
    "invalid utf-8 sequence of " ++ toString length ++ " bytes from index " ++ toString index
  | .incomplete index => "incomplete utf-8 byte sequence from index " ++ toString index

/-- A character whose bytes are being read: where it begins, how many of its bytes are behind and
how many are still owed, the bounds of the next one, and the bits so far. -/
structure Pending where
  start : Nat
  length : Nat
  owed : Nat
  low : UInt8
  high : UInt8
  bits : Nat

/-- The character that a first byte beyond ASCII begins. The bounds of the second byte leave out
what fits into fewer bytes, the surrogates, and what lies beyond the last code point. -/
def Pending.ofLead? (index : Nat) (b : UInt8) : Option Pending :=
  if 0xC2 ≤ b ∧ b ≤ 0xDF then some ⟨index, 1, 1, 0x80, 0xBF, b.toNat - 0xC0⟩
  else if b = 0xE0 then some ⟨index, 1, 2, 0xA0, 0xBF, 0⟩
  else if b = 0xED then some ⟨index, 1, 2, 0x80, 0x9F, 0xD⟩
  else if 0xE1 ≤ b ∧ b ≤ 0xEF then some ⟨index, 1, 2, 0x80, 0xBF, b.toNat - 0xE0⟩
  else if b = 0xF0 then some ⟨index, 1, 3, 0x90, 0xBF, 0⟩
  else if 0xF1 ≤ b ∧ b ≤ 0xF3 then some ⟨index, 1, 3, 0x80, 0xBF, b.toNat - 0xF0⟩
  else if b = 0xF4 then some ⟨index, 1, 3, 0x80, 0x8F, 4⟩
  else none

/-- Reads the bytes from `index` on, the first of them behind those of a pending character. -/
def decodeFrom (index : Nat) : Option Pending → List UInt8 → Except Fault (List Char)
  | none, [] => .ok []
  | some p, [] => .error (.incomplete p.start)
  | none, b :: rest =>
    if b < 0x80 then (decodeFrom (index + 1) none rest).map (Char.ofNat b.toNat :: ·)
    else
      match Pending.ofLead? index b with
      | none => .error (.invalid index 1)
      | some p => decodeFrom (index + 1) (some p) rest
  | some p, b :: rest =>
    if p.low ≤ b ∧ b ≤ p.high then
      let bits := p.bits * 0x40 + (b.toNat - 0x80)
      if p.owed = 1 then (decodeFrom (index + 1) none rest).map (Char.ofNat bits :: ·)
      else
        decodeFrom (index + 1) (some ⟨p.start, p.length + 1, p.owed - 1, 0x80, 0xBF, bits⟩) rest
    else .error (.invalid p.start p.length)

def decode (bytes : List UInt8) : Except Fault String :=
  (decodeFrom 0 none bytes).map String.ofList

end DelimiterScan.Text.Utf8
