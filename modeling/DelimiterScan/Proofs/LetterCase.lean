import DelimiterScan.Proofs.Widths
import DelimiterScan.Scan

/-!
# Literals where case does not count

Where case does not count, a literal is compared with as many bytes of the text ahead as it has
itself. No two beginnings of a text have the same lower case (`eq_of_lowercase_eq`), so there is one
candidate at most, and it is missed if it takes another number of bytes than the literal: `k` is the
lower case of the Kelvin sign, which takes three. Literals that take the same bytes in any case are
found wherever a beginning of the text has their lower case, and only those are
(`literal_of_any_case`). Among them are the literals of the basic letters without `k`.
-/

namespace DelimiterScan

namespace Text

variable {before cs p q rest : List Char} {c d : Char}

/-! ## What a lower case is made of -/

/-- The lower case of `c` where it stands: the capital sigma looks at both sides. -/
def lowerAt (before : List Char) (c : Char) (after : List Char) : List Char :=
  if c = 'Σ' then [if beginsCased before && !beginsCased after then 'ς' else 'σ'] else lowerChar c

theorem lowercaseFrom_cons (before : List Char) (c : Char) (cs : List Char) :
    lowercaseFrom before (c :: cs) = lowerAt before c cs ++ lowercaseFrom (c :: before) cs := rfl

theorem lowerChar_ne_nil (c : Char) : lowerChar c ≠ [] := by
  unfold lowerChar
  split
  · exact List.cons_ne_nil _ _
  · split <;> exact List.cons_ne_nil _ _

theorem lowerChar_sigma : lowerChar 'Σ' = ['σ'] := by decide +kernel

/-- Both small sigmas take as many bytes. -/
theorem map_utf8Size_lowerAt (before : List Char) (c : Char) (after : List Char) :
    (lowerAt before c after).map Char.utf8Size = (lowerChar c).map Char.utf8Size := by
  unfold lowerAt
  split
  · next hsigma =>
    rw [hsigma, lowerChar_sigma]
    split <;> rfl
  · rfl

/-- In bytes, a lower case is what its characters are outside any context. -/
theorem map_utf8Size_lowercaseFrom (before cs : List Char) :
    (lowercaseFrom before cs).map Char.utf8Size = (cs.flatMap lowerChar).map Char.utf8Size := by
  induction cs generalizing before with
  | nil => rfl
  | cons c cs ih =>
    rw [lowercaseFrom_cons, List.map_append, map_utf8Size_lowerAt, ih, List.flatMap_cons,
      List.map_append]

theorem byteSize_eq_of_map_eq {xs ys : List Char}
    (h : xs.map Char.utf8Size = ys.map Char.utf8Size) : byteSize xs = byteSize ys := by
  induction xs generalizing ys with
  | nil =>
    have hys : ys = [] := List.map_eq_nil_iff.mp h.symm
    rw [hys]
  | cons x xs ih =>
    cases ys with
    | nil => cases h
    | cons y ys =>
      rw [List.map_cons, List.map_cons, List.cons.injEq] at h
      rw [byteSize_cons, byteSize_cons, h.1, ih h.2]

theorem length_lowercase (cs : List Char) :
    (lowercase cs).length = (cs.flatMap lowerChar).length := by
  rw [← List.length_map Char.utf8Size, lowercase, map_utf8Size_lowercaseFrom, List.length_map]

theorem byteSize_lowercase (cs : List Char) :
    byteSize (lowercase cs) = byteSize (cs.flatMap lowerChar) :=
  byteSize_eq_of_map_eq (map_utf8Size_lowercaseFrom [] cs)

/-- More text has a longer lower case, so no two beginnings of a text have the same one. -/
theorem eq_of_lowercase_eq (hp : p <+: rest) (hq : q <+: rest) (h : lowercase p = lowercase q) :
    p = q := by
  have shorter : ∀ {xs ys : List Char}, xs <+: ys → lowercase xs = lowercase ys → xs = ys := by
    rintro xs _ ⟨more, rfl⟩ hlower
    have hlength := congrArg List.length hlower
    rw [length_lowercase, length_lowercase, List.flatMap_append, List.length_append] at hlength
    have hnil : more.flatMap lowerChar = [] := List.eq_nil_of_length_eq_zero (by omega)
    cases more with
    | nil => rw [List.append_nil]
    | cons c more =>
      rw [List.flatMap_cons, List.append_eq_nil_iff] at hnil
      exact absurd hnil.1 (lowerChar_ne_nil c)
  rcases List.prefix_or_prefix_of_prefix hp hq with hle | hle
  · exact shorter hle h
  · exact (shorter hle h.symm).symm

/-! ## Texts of one width -/

def KeepsWidth (c : Char) : Prop := byteSize (lowerChar c) = c.utf8Size

/-- Every text that differs in case only takes as many bytes. -/
def OneWidth (cs : List Char) : Prop := ∀ p, lowercase p = lowercase cs → byteSize p = byteSize cs

theorem byteSize_lowercase_of_keepsWidth (h : ∀ c ∈ cs, KeepsWidth c) :
    byteSize (lowercase cs) = byteSize cs := by
  rw [byteSize_lowercase]
  induction cs with
  | nil => rfl
  | cons c cs ih =>
    have hc : byteSize (lowerChar c) = c.utf8Size := h c List.mem_cons_self
    rw [List.flatMap_cons, byteSize_append, hc, byteSize_cons,
      ih fun d hd => h d (List.mem_cons_of_mem c hd)]

theorem keepsWidth_sigma : KeepsWidth 'Σ' := by
  rw [KeepsWidth, lowerChar_sigma]
  rfl

/-- What a character becomes is a part of the lower case, unless the context decides. -/
theorem lowerChar_infix (hd : d ∈ cs) (hsigma : d ≠ 'Σ') (before : List Char) :
    lowerChar d <:+: lowercaseFrom before cs := by
  induction cs generalizing before with
  | nil => cases hd
  | cons c cs ih =>
    rw [lowercaseFrom_cons]
    rcases List.mem_cons.mp hd with rfl | hd
    · rw [lowerAt, if_neg hsigma]
      exact (List.prefix_append _ _).isInfix
    · exact (ih hd _).trans (List.suffix_append _ _).isInfix

/-- A text is of one width if no character that changes its width can have become a part of its
lower case. -/
theorem oneWidth_of_not_infix (h : ∀ d, ¬ KeepsWidth d → ¬ lowerChar d <:+: lowercase cs) :
    OneWidth cs := by
  have keeps : ∀ p, lowercase p = lowercase cs → ∀ d ∈ p, KeepsWidth d := by
    intro p hp d hd
    by_contra hwidth
    have hsigma : d ≠ 'Σ' := by
      rintro rfl
      exact hwidth keepsWidth_sigma
    exact h d hwidth (hp ▸ lowerChar_infix hd hsigma [])
  intro p hp
  rw [← byteSize_lowercase_of_keepsWidth (keeps p hp), hp,
    byteSize_lowercase_of_keepsWidth (keeps cs rfl)]

/-! ## Basic characters -/

theorem toNat_ofNat {n : Nat} (h : n.isValidChar) : (Char.ofNat n).toNat = n := by
  rw [Char.ofNat, dif_pos h]
  rfl

/-- Of the basic characters the capital letters alone have another lower case. -/
theorem lowerChar_of_basic (hc : c.toNat < 128) :
    lowerChar c =
      if 'A'.toNat ≤ c.toNat ∧ c.toNat ≤ 'Z'.toNat then [Char.ofNat (c.toNat + 32)] else [c] := by
  have hdotted : c ≠ 'İ' := by
    rintro rfl
    exact absurd hc (by decide)
  have hother : ∀ r ∈ lowerRuns.tail, r.lower? c.toNat = none := by
    intro r hr
    have hfirst : 128 ≤ r.first := by
      revert r
      decide +kernel
    rw [LowerRun.lower?, if_neg]
    omega
  have hruns : lowerRuns = ⟨0x41, 0x5A, 1, 0x61⟩ :: lowerRuns.tail := rfl
  have hfind : lowerRuns.findSome? (·.lower? c.toNat) =
      LowerRun.lower? ⟨0x41, 0x5A, 1, 0x61⟩ c.toNat := by
    rw [hruns, List.findSome?_cons, List.findSome?_eq_none_iff.mpr hother]
    cases LowerRun.lower? ⟨0x41, 0x5A, 1, 0x61⟩ c.toNat <;> rfl
  have hA : 'A'.toNat = 65 := rfl
  have hZ : 'Z'.toNat = 90 := rfl
  rw [lowerChar, if_neg hdotted, hfind, LowerRun.lower?, hA, hZ]
  by_cases hcapital : 65 ≤ c.toNat ∧ c.toNat ≤ 90
  · have hsum : 0x61 + (c.toNat - 0x41) = c.toNat + 32 := by omega
    rw [if_pos ⟨hcapital.1, hcapital.2, Nat.mod_one _⟩, if_pos hcapital, hsum]
  · rw [if_neg fun h => hcapital ⟨h.1, h.2.1⟩, if_neg hcapital]

theorem basic_lowerChar (hc : c.toNat < 128) :
    KeepsWidth c ∧ ∀ e ∈ lowerChar c, e.toNat < 128 ∧ (e = 'k' → c = 'k' ∨ c = 'K') := by
  have one : ∀ {e : Char}, e.toNat < 128 → e.utf8Size = 1 := by
    intro e he
    rw [Char.utf8Size_eq_one_iff, UInt32.le_iff_toNat_le]
    exact Nat.le_of_lt_succ he
  rw [KeepsWidth, lowerChar_of_basic hc]
  split
  · next hcapital =>
    have hZ : 'Z'.toNat = 90 := rfl
    have hcode : (Char.ofNat (c.toNat + 32)).toNat = c.toNat + 32 := toNat_ofNat (.inl (by omega))
    refine ⟨?_, fun e he => ?_⟩
    · rw [byteSize_cons, byteSize_nil, one hc, one (by omega)]
    · rw [List.mem_singleton.mp he]
      refine ⟨by omega, fun hk => .inr ?_⟩
      rw [hk] at hcode
      have hcode' : c.toNat = 'K'.toNat := Nat.add_right_cancel hcode.symm
      rw [← Char.ofNat_toNat c, hcode', Char.ofNat_toNat]
  · refine ⟨rfl, fun e he => ?_⟩
    rw [List.mem_singleton.mp he]
    exact ⟨hc, .inl⟩

/-- No run takes a character to a basic one but that of the capital letters and the Kelvin sign. -/
theorem image_of_run {r : LowerRun} (hr : r ∈ lowerRuns) :
    r.last < 128 ∨ (r.first = r.last ∧ r.image = 'k'.toNat) ∨
      128 ≤ r.image ∧ (r.image + (r.last - r.first) < 0xD800 ∨
        0xDFFF < r.image ∧ r.image + (r.last - r.first) < 0x110000) := by
  revert r
  decide +kernel

/-- A character that changes its width has a lower case beyond the basic characters, or `k`. -/
theorem lowerChar_of_not_keepsWidth (hd : ¬ KeepsWidth d) :
    lowerChar d = ['k'] ∨ ∃ e ∈ lowerChar d, 128 ≤ e.toNat := by
  by_cases hdotted : d = 'İ'
  · rw [lowerChar, if_pos hdotted]
    exact .inr ⟨'\u0307', by simp, by decide⟩
  have hlower := lowerChar.eq_1 d
  rw [if_neg hdotted] at hlower
  cases hfind : lowerRuns.findSome? (·.lower? d.toNat) with
  | none =>
    rw [hfind] at hlower
    refine absurd ?_ hd
    rw [KeepsWidth, hlower]
    rfl
  | some n =>
    rw [hfind] at hlower
    obtain ⟨r, hr, hn⟩ := List.exists_of_findSome?_eq_some hfind
    rw [LowerRun.lower?, Option.ite_none_right_eq_some] at hn
    obtain ⟨⟨hfirst, hlast, -⟩, himage⟩ := hn
    replace himage := Option.some.inj himage
    rcases image_of_run hr with hbasic | ⟨hsingle, hk⟩ | ⟨hwide, hvalid⟩
    · exact absurd (basic_lowerChar (by omega)).1 hd
    · have hcode : n = 'k'.toNat := by omega
      have hletter : lowerChar d = [Char.ofNat 'k'.toNat] := hcode ▸ hlower
      exact .inl (by rw [hletter, Char.ofNat_toNat])
    · refine .inr ⟨Char.ofNat n, hlower ▸ List.mem_singleton_self _, ?_⟩
      rw [toNat_ofNat (by omega)]
      omega

theorem lowercaseFrom_of_no_sigma (h : 'Σ' ∉ cs) (before : List Char) :
    lowercaseFrom before cs = cs.flatMap lowerChar := by
  induction cs generalizing before with
  | nil => rfl
  | cons c cs ih =>
    have hc : c ≠ 'Σ' := fun hc => h (hc ▸ List.mem_cons_self)
    rw [lowercaseFrom_cons, lowerAt, if_neg hc, ih (fun hcs => h (List.mem_cons_of_mem c hcs)),
      List.flatMap_cons]

/-- Texts of basic characters without `k` take the same bytes in any case. -/
theorem oneWidth_of_basic (h : ∀ c ∈ cs, c.toNat < 128 ∧ c ≠ 'k' ∧ c ≠ 'K') : OneWidth cs := by
  have hsigma : 'Σ' ∉ cs := fun hmem => absurd (h _ hmem).1 (by decide)
  have hbasic : ∀ e ∈ lowercase cs, e.toNat < 128 ∧ e ≠ 'k' := by
    intro e he
    rw [lowercase, lowercaseFrom_of_no_sigma hsigma] at he
    obtain ⟨c, hc, he⟩ := List.mem_flatMap.mp he
    obtain ⟨hcode, hk, hK⟩ := h c hc
    obtain ⟨hlow, hfrom⟩ := (basic_lowerChar hcode).2 e he
    exact ⟨hlow, fun heq => (hfrom heq).elim hk hK⟩
  refine oneWidth_of_not_infix fun d hd hpart => ?_
  rcases lowerChar_of_not_keepsWidth hd with hk | ⟨e, he, hwide⟩
  · exact (hbasic 'k' (hpart.subset (hk ▸ List.mem_singleton_self _))).2 rfl
  · have hlow := (hbasic e (hpart.subset he)).1
    omega

end Text

namespace Delimiter

variable {text : String} {cur : Cursor} {buffer : TokenBuffer}

/-- A literal stands where a beginning of the text has its lower case and as many bytes. -/
theorem literalStandsAt_any_case {rest : List Char} :
    literalStandsAt text rest true = true ↔
      ∃ p, p <+: rest ∧ Text.lowercase p = Text.lowercase text.toList ∧
        Text.byteSize p = text.utf8ByteSize := by
  unfold literalStandsAt
  constructor
  · intro h
    cases htake : Text.takeBytes? text.utf8ByteSize rest with
    | none => simp [htake] at h
    | some p =>
      obtain ⟨hbegins, hsize⟩ := Text.takeBytes?_eq_some_iff.mp htake
      exact ⟨p, hbegins, by simpa [htake] using h, hsize⟩
  · rintro ⟨p, hbegins, hlower, hsize⟩
    rw [Text.takeBytes?_eq_some_iff.mpr ⟨hbegins, hsize⟩]
    simpa using hlower

theorem isSome_match?_literal :
    ((literal text).match? cur buffer true).isSome ↔
      ∃ p, p <+: cur.rest ∧ Text.lowercase p = Text.lowercase text.toList ∧
        Text.byteSize p = text.utf8ByteSize := by
  rw [← literalStandsAt_any_case, match?]
  cases literalStandsAt text cur.rest true <;> simp

/-- What is passed at a literal that stands at the cursor has its lower case. -/
theorem lowercase_passed (hne : text ≠ "")
    (h : ((literal text).match? cur buffer true).isSome) :
    Text.lowercase (cur.passed text.utf8ByteSize).toList = Text.lowercase text.toList := by
  obtain ⟨p, hbegins, hlower, hsize⟩ := isSome_match?_literal.mp h
  have hp : String.ofList p ≠ "" := by
    intro hnil
    have hzero : text.utf8ByteSize = 0 := by
      rw [← hsize, ← Text.utf8ByteSize_ofList, hnil]
      rfl
    exact hne (String.utf8ByteSize_eq_zero_iff.mp hzero)
  have hpassed := Cursor.passed_of_begins hp (by rwa [String.toList_ofList])
  rw [Text.utf8ByteSize_ofList, hsize] at hpassed
  rw [hpassed, String.toList_ofList, hlower]

/-- Where case does not count, a literal is found if a beginning of the text ahead has its lower
case and takes as many bytes, and this is what is passed. There is one beginning with its lower case
at most. The bytes make no difference exactly if the literal takes the same bytes in any case, as
texts of basic characters without the letter `k` do. -/
theorem literal_of_any_case (text : String) (hne : text ≠ "") :
    (∀ cur buffer, ((literal text).match? cur buffer true).isSome ↔
      ∃ p, p <+: cur.rest ∧ Text.lowercase p = Text.lowercase text.toList ∧
        Text.byteSize p = text.utf8ByteSize) ∧
    (∀ cur buffer m, (literal text).match? cur buffer true = some m →
      m = text ∧
        Text.lowercase (cur.passed m.utf8ByteSize).toList = Text.lowercase text.toList) ∧
    (∀ rest p q, p <+: rest → q <+: rest → Text.lowercase p = Text.lowercase text.toList →
      Text.lowercase q = Text.lowercase text.toList → p = q) ∧
    ((∀ cur buffer, ((literal text).match? cur buffer true).isSome ↔
      ∃ p, p <+: cur.rest ∧ Text.lowercase p = Text.lowercase text.toList) ↔
        Text.OneWidth text.toList) ∧
    ((∀ c ∈ text.toList, c.toNat < 128 ∧ c ≠ 'k' ∧ c ≠ 'K') → Text.OneWidth text.toList) := by
  refine ⟨fun cur buffer => isSome_match?_literal, fun cur buffer m hmatch => ?_, ?_, ?_,
    Text.oneWidth_of_basic⟩
  · have htext : m = text := by
      rw [match?, Option.ite_none_right_eq_some, Option.some.injEq] at hmatch
      exact hmatch.2.symm
    rw [htext] at hmatch ⊢
    exact ⟨rfl, lowercase_passed hne (Option.isSome_of_eq_some hmatch)⟩
  · intro rest p q hp hq hlowerP hlowerQ
    exact Text.eq_of_lowercase_eq hp hq (hlowerP.trans hlowerQ.symm)
  · constructor
    · intro h p hlower
      -- At a text that is `p` alone, the only beginning with that lower case is `p`.
      have hfound := (h ⟨"", p⟩ {}).mpr ⟨p, List.prefix_rfl, hlower⟩
      obtain ⟨q, hq, hlowerQ, hsize⟩ := isSome_match?_literal.mp hfound
      rw [Text.eq_of_lowercase_eq hq List.prefix_rfl (hlowerQ.trans hlower.symm)] at hsize
      rw [hsize, Text.byteSize_toList]
    · intro hwidth cur buffer
      rw [isSome_match?_literal]
      constructor
      · rintro ⟨p, hbegins, hlower, -⟩
        exact ⟨p, hbegins, hlower⟩
      · rintro ⟨p, hbegins, hlower⟩
        exact ⟨p, hbegins, hlower, (hwidth p hlower).trans (Text.byteSize_toList text)⟩

/-- A literal without `k` is found in capital letters. -/
theorem literal_and_in_capitals :
    " and " ≠ "" ∧ (∀ c ∈ " and ".toList, c.toNat < 128 ∧ c ≠ 'k' ∧ c ≠ 'K') ∧
    ((literal " and ").match? ⟨"x", " AND y".toList⟩ {} true).isSome := by
  obtain ⟨-, -, -, hall, hbasic⟩ := literal_of_any_case " and " (by decide)
  have hletters : ∀ c ∈ " and ".toList, c.toNat < 128 ∧ c ≠ 'k' ∧ c ≠ 'K' := by simp
  refine ⟨by decide, hletters, ?_⟩
  refine (hall.mpr (hbasic hletters) _ _).mpr ⟨" AND ".toList, ?_, by decide +kernel⟩
  exact List.prefix_append " AND ".toList ['y']

/-- The letter `k` is the Kelvin sign but for case, and it is not found as one. -/
theorem kelvin_sign_not_found :
    "\u212A" ≠ "" ∧ "k".toList <+: "k".toList ∧
      Text.lowercase "k".toList = Text.lowercase "\u212A".toList ∧
    (literal "\u212A").match? ⟨"x", "k".toList⟩ {} true = none ∧
    ∃ r, scan "xk" { caseInsensitive := true } [.literal "\u212A"] = .ok r ∧ r.cuts = #[] := by
  exact ⟨by decide, List.prefix_rfl, by decide +kernel, rfl, _, rfl, rfl⟩

end Delimiter

end DelimiterScan
