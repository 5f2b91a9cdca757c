import DelimiterScan.Proofs.Resolve
import DelimiterScan.Proofs.Widths

/-!
# How long matches are

What a pattern finds is a part of the text ahead, and a literal has as many bytes as a beginning
of it. Only predicates may answer with a longer text, so a bound on the input and on the answers
of predicates bounds all matches (`utf8ByteSize_of_firstMatch?`).
-/

namespace DelimiterScan

namespace Regex

theorem infix_of_findFrom {program : Program} {before : Option Char} {text found : List Char}
    (h : program.findFrom before text = some found) : found <:+: text := by
  induction text generalizing before with
  | nil =>
    rw [Program.findFrom] at h
    split at h
    · cases h
      exact (List.take_prefix _ _).isInfix
    · cases h
  | cons c text ih =>
    rw [Program.findFrom] at h
    split at h
    · cases h
      exact (List.take_prefix _ _).isInfix
    · exact (ih h).trans (List.suffix_cons c text).isInfix

theorem infix_of_find? {regex : Regex} {text found : List Char}
    (h : regex.find? text = some found) : found <:+: text := by
  unfold find? at h
  split at h
  · obtain ⟨n, -, rfl⟩ := Option.map_eq_some_iff.mp h
    exact (List.take_prefix n text).isInfix
  · exact infix_of_findFrom h

end Regex

theorem Text.byteSize_le_of_infix {xs ys : List Char} (h : xs <:+: ys) :
    byteSize xs ≤ byteSize ys := by
  obtain ⟨before, after, rfl⟩ := h
  rw [byteSize_append, byteSize_append]
  omega

/-- All answers of the predicate have less than `n` bytes. -/
def Predicate.Below (n : Nat) (p : Predicate) : Prop :=
  ∀ before rest tokens matched, p.test before rest tokens = some matched →
    matched.utf8ByteSize < n

namespace Delimiter

def AllBelow (n : Nat) (ds : List Delimiter) : Prop := ∀ p, .predicate p ∈ ds → p.Below n

variable {cur : Cursor} {buffer : TokenBuffer} {caseInsensitive : Bool} {matched : String}

theorem utf8ByteSize_of_literalStandsAt {text : String} {rest : List Char}
    (h : literalStandsAt text rest caseInsensitive = true) :
    text.utf8ByteSize ≤ Text.byteSize rest := by
  unfold literalStandsAt at h
  split at h
  · cases h
  · next candidate htake =>
    obtain ⟨hbegins, hsize⟩ := Text.takeBytes?_eq_some_iff.mp htake
    rw [← hsize]
    exact Text.byteSize_le_of_infix hbegins.isInfix

theorem utf8ByteSize_of_match? {n : Nat} {d : Delimiter} (hrest : Text.byteSize cur.rest < n)
    (hbelow : ∀ p, d = .predicate p → p.Below n)
    (h : d.match? cur buffer caseInsensitive = some matched) : matched.utf8ByteSize < n := by
  cases d with
  | literal text =>
    by_cases hstands : literalStandsAt text cur.rest caseInsensitive = true
    · simp only [match?, if_pos hstands] at h
      cases h
      exact Nat.lt_of_le_of_lt (utf8ByteSize_of_literalStandsAt hstands) hrest
    · simp only [match?, if_neg hstands] at h
      cases h
  | pattern p =>
    obtain ⟨found, hfound, rfl⟩ := Option.map_eq_some_iff.mp h
    rw [Text.utf8ByteSize_ofList]
    exact Nat.lt_of_le_of_lt (Text.byteSize_le_of_infix (Regex.infix_of_find? hfound)) hrest
  | predicate p => exact hbelow p rfl _ _ _ _ h

theorem utf8ByteSize_of_firstMatch? {n : Nat} {ds : List Delimiter}
    (hrest : Text.byteSize cur.rest < n) (hbelow : AllBelow n ds)
    (h : firstMatch? ds cur buffer caseInsensitive = some matched) : matched.utf8ByteSize < n := by
  obtain ⟨d, hd, hmatch⟩ := List.exists_of_findSome?_eq_some h
  exact utf8ByteSize_of_match? hrest (fun p hp => hbelow p (hp ▸ hd)) hmatch

theorem allBelow_of_resolve {n : Nat} {flags : Option Regex.Flags} {ds es : List Delimiter}
    (hbelow : AllBelow n ds) (h : Plan.resolve flags ds = .ok es) : AllBelow n es :=
  fun p hp => hbelow p (Plan.mem_of_mem_resolve h hp)

end Delimiter

end DelimiterScan
