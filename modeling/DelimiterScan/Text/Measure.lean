/-!
# Byte measure of text

The text ahead of a scan is a list of characters; offsets and widths count bytes of UTF-8.
This module holds the cuts that are given in bytes:

- `takeBytes? n cs`: the beginning of `cs` that takes exactly `n` bytes, if a character ends there
  (`takeBytes?_eq_some_iff`);
- `splitBytes n cs`: the cut at the first character boundary at or after `n` bytes, which loses
  nothing (`splitBytes_append`) and always moves on (`length_splitBytes_lt`).
-/

namespace DelimiterScan.Text

def byteSize : List Char → Nat
  | [] => 0
  | c :: cs => c.utf8Size + byteSize cs

@[simp] theorem byteSize_nil : byteSize [] = 0 := rfl

@[simp] theorem byteSize_cons (c : Char) (cs : List Char) :
    byteSize (c :: cs) = c.utf8Size + byteSize cs := rfl

@[simp] theorem byteSize_append (xs ys : List Char) :
    byteSize (xs ++ ys) = byteSize xs + byteSize ys := by
  induction xs with
  | nil => simp
  | cons x xs ih => simp [ih, Nat.add_assoc]

@[simp] theorem byteSize_toList (s : String) : byteSize s.toList = s.utf8ByteSize := by
  have ofList (cs : List Char) : byteSize cs = (String.ofList cs).utf8ByteSize := by
    induction cs with
    | nil => simp
    | cons c cs ih =>
      have hsplit : String.ofList (c :: cs) = String.singleton c ++ String.ofList cs := by
        rw [String.singleton_eq_ofList, ← String.ofList_append]
        rfl
      rw [hsplit, String.utf8ByteSize_append, String.utf8ByteSize_singleton, byteSize_cons, ih]
  rw [ofList, String.ofList_toList]

@[simp] theorem utf8ByteSize_ofList (cs : List Char) :
    (String.ofList cs).utf8ByteSize = byteSize cs := by
  rw [← byteSize_toList, String.toList_ofList]

def startsWith (cs : List Char) (marker : String) : Bool := marker.toList.isPrefixOf cs

theorem startsWith_iff {cs : List Char} {marker : String} :
    startsWith cs marker = true ↔ marker.toList <+: cs := by
  simp [startsWith]

/-! ## A cut at an exact number of bytes -/

/-- The beginning of the text that takes exactly `n` bytes, if there is one. -/
def takeBytes? : Nat → List Char → Option (List Char)
  | 0, _ => some []
  | _ + 1, [] => none
  | n + 1, c :: cs =>
    if c.utf8Size ≤ n + 1 then (takeBytes? (n + 1 - c.utf8Size) cs).map (c :: ·) else none

theorem takeBytes?_eq_some_iff {n : Nat} {cs p : List Char} :
    takeBytes? n cs = some p ↔ p <+: cs ∧ byteSize p = n := by
  induction cs generalizing n p with
  | nil =>
    cases n with
    | zero =>
      simp only [takeBytes?, Option.some.injEq, List.prefix_nil]
      exact ⟨fun h => by simp [← h], fun h => h.1.symm⟩
    | succ n =>
      simp only [takeBytes?, List.prefix_nil, reduceCtorEq, false_iff]
      rintro ⟨rfl, h⟩
      simp at h
  | cons c cs ih =>
    have hc := c.utf8Size_pos
    cases n with
    | zero =>
      simp only [takeBytes?, Option.some.injEq]
      constructor
      · rintro rfl
        exact ⟨List.nil_prefix, rfl⟩
      · rintro ⟨-, h⟩
        cases p with
        | nil => rfl
        | cons d p =>
          have := d.utf8Size_pos
          simp only [byteSize_cons] at h
          omega
    | succ n =>
      cases p with
      | nil =>
        simp only [takeBytes?, byteSize_nil]
        split <;> simp
      | cons d p =>
        simp only [takeBytes?, List.cons_prefix_cons, byteSize_cons]
        split
        · simp only [Option.map_eq_some_iff, List.cons.injEq, ih]
          constructor
          · rintro ⟨q, ⟨hq, hs⟩, rfl, rfl⟩
            exact ⟨⟨rfl, hq⟩, by omega⟩
          · rintro ⟨⟨rfl, hq⟩, hs⟩
            exact ⟨p, ⟨hq, by omega⟩, rfl, rfl⟩
        · simp only [reduceCtorEq, false_iff]
          rintro ⟨⟨rfl, -⟩, hs⟩
          omega

/-! ## A cut at the next character boundary -/

/-- Cuts the text at the first character boundary that is `n` bytes or more into it, or at its
end. -/
def splitBytes : Nat → List Char → List Char × List Char
  | 0, cs => ([], cs)
  | _ + 1, [] => ([], [])
  | n + 1, c :: cs =>
    let cut := splitBytes (n + 1 - c.utf8Size) cs
    (c :: cut.1, cut.2)

@[simp] theorem splitBytes_zero (cs : List Char) : splitBytes 0 cs = ([], cs) := by
  cases cs <;> rfl

@[simp] theorem splitBytes_nil (n : Nat) : splitBytes n [] = ([], []) := by
  cases n <;> rfl

@[simp] theorem splitBytes_append (n : Nat) (cs : List Char) :
    (splitBytes n cs).1 ++ (splitBytes n cs).2 = cs := by
  induction cs generalizing n with
  | nil => simp
  | cons c cs ih =>
    cases n with
    | zero => simp
    | succ n => simp [splitBytes, ih]

theorem length_splitBytes_lt {n : Nat} {cs : List Char} (hn : 0 < n) (hcs : cs ≠ []) :
    (splitBytes n cs).2.length < cs.length := by
  cases cs with
  | nil => exact absurd rfl hcs
  | cons c cs =>
    cases n with
    | zero => omega
    | succ n =>
      have h := congrArg List.length (splitBytes_append (n + 1 - c.utf8Size) cs)
      simp only [splitBytes, List.length_append, List.length_cons] at h ⊢
      omega

/-- A cut as wide as a whole beginning of the text falls exactly behind it. -/
theorem splitBytes_byteSize_append (xs ys : List Char) :
    splitBytes (byteSize xs) (xs ++ ys) = (xs, ys) := by
  induction xs with
  | nil => simp
  | cons x xs ih =>
    have hx := x.utf8Size_pos
    obtain ⟨n, hn⟩ : ∃ n, byteSize (x :: xs) = n + 1 :=
      ⟨byteSize (x :: xs) - 1, by simp only [byteSize_cons]; omega⟩
    have hrest : n + 1 - x.utf8Size = byteSize xs := by
      simp only [byteSize_cons] at hn
      omega
    rw [hn, List.cons_append, splitBytes, hrest, ih]

end DelimiterScan.Text
