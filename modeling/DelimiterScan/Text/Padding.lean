/-!
# Fields of a given width

A text is laid out in a field by cutting it to a greatest length and filling it up to a least
width, both counted in characters. The field is as wide as that (`length_layOut`), and a text that
fills it stays as it is (`layOut_of_le`).
-/

namespace DelimiterScan.Text

inductive Alignment where
  | left
  | right
  | center

/-- Lays `s` out in `width` characters, with `fill` for the places that are left over. A greatest
length of `none` cuts nothing; in the middle, the odd place goes behind the text. -/
def layOut (alignment : Alignment) (fill : Char) (width : Nat) (greatest : Option Nat)
    (s : String) : String :=
  let kept :=
    match greatest with
    | none => s.toList
    | some n => s.toList.take n
  let room := width - kept.length
  let before :=
    match alignment with
    | .left => 0
    | .right => room
    | .center => room / 2
  String.ofList
    (List.replicate before fill ++ kept ++ List.replicate (room - before) fill)

variable (alignment : Alignment) (fill : Char) {width : Nat} {s : String}

theorem length_layOut (width : Nat) (greatest : Option Nat) (s : String) :
    (layOut alignment fill width greatest s).length =
      max width (min (greatest.getD s.length) s.length) := by
  have hkept : (match greatest with
      | none => s.toList
      | some n => s.toList.take n).length = min (greatest.getD s.length) s.length := by
    cases greatest with
    | none => simp [String.length_toList]
    | some n => simp [String.length_toList]
  simp only [layOut, String.length_ofList, List.length_append, List.length_replicate, hkept]
  cases alignment <;> dsimp only <;> omega

theorem layOut_of_le (h : width ≤ s.length) : layOut alignment fill width none s = s := by
  have hroom : width - s.toList.length = 0 := by
    rw [String.length_toList]
    omega
  cases alignment <;> simp [layOut, hroom]

end DelimiterScan.Text
