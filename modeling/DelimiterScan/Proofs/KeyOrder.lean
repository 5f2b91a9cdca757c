import DelimiterScan.Proofs.KeySet
import Mathlib.Data.List.Destutter

/-!
# The order of keys

Keys are ordered by their kind, then by the bytes of their texts, then by the switches of a pattern
one after the other, or by identity (`Delimiter.Key.Before`). They are compared by characters and by
a number for all switches at once, which comes to the same: UTF-8 keeps texts in the order of their
characters (`Text.bytes_lt_bytes_iff`).

A set of keys is a canonical form. It is what sorting gives where neighbours that are equal become
one, in whatever order the delimiters come and however often they do
(`KeySet.ofDelimiters_canonical`).
-/

namespace DelimiterScan

/-! ## Texts in the order of their bytes -/

namespace Text

def bytes (text : String) : List UInt8 := text.toUTF8.data.toList

theorem bytes_eq_flatMap (text : String) :
    bytes text = text.toList.flatMap String.utf8EncodeChar := by
  rw [bytes, String.toUTF8_eq_toByteArray, ← String.utf8Encode_toList, List.utf8Encode,
    List.data_toByteArray]

/-- A character with a smaller code is spelled by smaller bytes, whatever is behind it: either its
first byte is smaller, or there are as many bytes and these are digits of the code. -/
theorem utf8EncodeChar_append_lt {c d : Char} (h : c < d) (us vs : List UInt8) :
    String.utf8EncodeChar c ++ us < String.utf8EncodeChar d ++ vs := by
  have hlt : c.val.toNat < d.val.toNat := h
  have hlast : d.val.toNat ≤ 0x10ffff := by
    have hvalid : d.val.toNat < 0xd800 ∨ 0xdfff < d.val.toNat ∧ d.val.toNat < 0x110000 := d.valid
    omega
  unfold String.utf8EncodeChar
  dsimp only
  generalize c.val.toNat = m at *
  generalize d.val.toNat = n at *
  have hsecond : m / 64 < n / 64 ∨ m / 64 = n / 64 ∧ m % 64 < n % 64 := by omega
  have hthird : m / 4096 < n / 4096 ∨ m / 4096 = n / 4096 ∧ m / 64 % 64 ≤ n / 64 % 64 := by omega
  have hfourth : m / 262144 < n / 262144 ∨
      m / 262144 = n / 262144 ∧ m / 4096 % 64 ≤ n / 4096 % 64 := by omega
  split_ifs
  all_goals
    simp (disch := omega) only [List.cons_append, List.nil_append, List.cons_lt_cons_iff,
      UInt8.lt_iff_toNat_lt, ← UInt8.toNat_inj, UInt8.toNat_ofNat', Nat.reducePow,
      Nat.mod_eq_of_lt, Nat.add_lt_add_iff_right, Nat.add_right_cancel_iff]
    omega

theorem flatMap_utf8EncodeChar_lt {xs ys : List Char} (h : xs < ys) :
    xs.flatMap String.utf8EncodeChar < ys.flatMap String.utf8EncodeChar := by
  induction h with
  | @nil d ys =>
    obtain ⟨b, bs, hbytes⟩ := List.exists_cons_of_ne_nil (String.utf8EncodeChar_ne_nil (c := d))
    rw [List.flatMap_cons, hbytes]
    exact .nil
  | @cons c xs ys _ ih =>
    rw [List.flatMap_cons, List.flatMap_cons]
    exact List.append_left_lt ih
  | @rel c xs d ys hlt =>
    rw [List.flatMap_cons, List.flatMap_cons]
    exact utf8EncodeChar_append_lt hlt _ _

/-- Texts are in the order of their bytes. -/
theorem bytes_lt_bytes_iff {s t : String} : bytes s < bytes t ↔ s < t := by
  have hmono : ∀ {s t : String}, s < t → bytes s < bytes t := by
    intro s t h
    rw [bytes_eq_flatMap, bytes_eq_flatMap]
    exact flatMap_utf8EncodeChar_lt h
  refine ⟨fun h => ?_, hmono⟩
  by_contra hnot
  by_cases hafter : t < s
  · exact List.lt_asymm h (hmono hafter)
  · have hsame : s = t := String.le_antisymm (String.not_lt.mp hafter) (String.not_lt.mp hnot)
    rw [hsame] at h
    exact List.lt_irrefl _ h

end Text

/-! ## Keys in order -/

/-- The switches, in the order in which flags are compared. -/
def Regex.Flags.switches (f : Flags) : List Bool :=
  [f.caseInsensitive, f.multiLine, f.dotMatchesNewLine, f.ignoreWhitespace]

/-- Ranks compare flags by the first switch that is different. -/
theorem Regex.Flags.rank_lt_rank_iff {f g : Flags} :
    f.rank < g.rank ↔ f.switches < g.switches := by
  obtain ⟨a, b, c, d⟩ := f
  obtain ⟨a', b', c', d'⟩ := g
  revert a b c d a' b' c' d'
  decide

namespace Delimiter.Key

/-- The key `a` comes before `b`: by the kinds of both, or by the bytes of their texts, or, for
patterns of one source, by the first switch that is different, or by identity. -/
inductive Before : Key → Key → Prop
  | literals {s t : String} (h : Text.bytes s < Text.bytes t) : Before (.literal s) (.literal t)
  | literal_pattern (s t : String) (g : Regex.Flags) : Before (.literal s) (.pattern t g)
  | literal_predicate (s : String) (n : Nat) : Before (.literal s) (.predicate n)
  | patterns {s t : String} (f g : Regex.Flags) (h : Text.bytes s < Text.bytes t) :
      Before (.pattern s f) (.pattern t g)
  | flags (s : String) {f g : Regex.Flags} (h : f.switches < g.switches) :
      Before (.pattern s f) (.pattern s g)
  | pattern_predicate (s : String) (f : Regex.Flags) (n : Nat) :
      Before (.pattern s f) (.predicate n)
  | predicates {m n : Nat} (h : m < n) : Before (.predicate m) (.predicate n)

theorem compare_string_eq_lt {s t : String} :
    Ord.compare s t = .lt ↔ Text.bytes s < Text.bytes t :=
  compareOfLessAndEq_eq_lt.trans Text.bytes_lt_bytes_iff.symm

/-- Keys are compared by what comes before what. -/
theorem compare_eq_lt_iff {a b : Key} : a.compare b = .lt ↔ Before a b := by
  constructor
  · intro h
    cases a <;> cases b
    case literal.literal => exact .literals (compare_string_eq_lt.mp h)
    case literal.pattern => exact .literal_pattern _ _ _
    case literal.predicate => exact .literal_predicate _ _
    case pattern.pattern s f t g =>
      rcases Ordering.then_eq_lt.mp h with hlt | ⟨heq, hlt⟩
      · exact .patterns f g (compare_string_eq_lt.mp hlt)
      · obtain rfl : s = t := Std.LawfulEqOrd.eq_of_compare heq
        exact .flags s (Regex.Flags.rank_lt_rank_iff.mp (Nat.compare_eq_lt.mp hlt))
    case pattern.predicate => exact .pattern_predicate _ _ _
    case predicate.predicate => exact .predicates (Nat.compare_eq_lt.mp h)
    all_goals cases h
  · intro h
    cases h with
    | literals h => exact compare_string_eq_lt.mpr h
    | patterns f g h => exact Ordering.then_eq_lt.mpr (.inl (compare_string_eq_lt.mpr h))
    | flags s h =>
      have hflags := Nat.compare_eq_lt.mpr (Regex.Flags.rank_lt_rank_iff.mpr h)
      exact Ordering.then_eq_lt.mpr (.inr ⟨Std.ReflOrd.compare_self, hflags⟩)
    | predicates h => exact Nat.compare_eq_lt.mpr h
    | literal_pattern | literal_predicate | pattern_predicate => rfl

end Delimiter.Key

/-- Only the literal of a text has its key. -/
theorem Delimiter.key_eq_literal_iff {d : Delimiter} {text : String} :
    d.key = .literal text ↔ d = .literal text := by
  constructor
  · intro h
    cases d with
    | literal t => exact congrArg literal (Key.literal.inj h)
    | pattern p => cases h
    | predicate p => cases h
  · rintro rfl
    rfl

/-- Only the pattern of a source and flags has their key. -/
theorem Delimiter.key_eq_pattern_iff {d : Delimiter} {p : Pattern} :
    d.key = .pattern p.source p.flags ↔ d = .pattern p := by
  constructor
  · intro h
    cases d with
    | literal t => cases h
    | pattern q =>
      obtain ⟨hsource, hflags⟩ := Key.pattern.inj h
      rw [Pattern.ext hsource hflags]
    | predicate q => cases h
  · rintro rfl
    rfl

/-- A compiled pattern has the source and the flags that it was compiled from. -/
theorem Pattern.parts_of_compile {source : String} {flags : Regex.Flags} {p : Pattern}
    (h : Pattern.compile source flags = .ok p) : p.source = source ∧ p.flags = flags := by
  unfold Pattern.compile at h
  split at h
  · cases h
    exact ⟨rfl, rfl⟩
  · cases h

/-! ## Sets of keys as canonical forms -/

namespace KeySet

open Delimiter (Key)

variable {ds es : List Delimiter}

def sortedKeys (ds : List Delimiter) : List Key :=
  ((ds.map Delimiter.key).mergeSort fun a b => (a.compare b).isLE).destutter (· ≠ ·)

theorem isLE_total (a b : Key) : ((a.compare b).isLE || (b.compare a).isLE) = true := by
  rw [Bool.or_eq_true]
  cases h : a.compare b with
  | lt | eq => exact .inl rfl
  | gt =>
    rw [Std.OrientedCmp.gt_iff_lt.mp h]
    exact .inr rfl

theorem sorted_mergeSort (ks : List Key) :
    (ks.mergeSort fun a b => (a.compare b).isLE).Pairwise fun a b => (a.compare b).isLE = true :=
  List.pairwise_mergeSort (fun _ _ _ => Std.TransCmp.isLE_trans) isLE_total ks

/-- Once keys are sorted, equal ones are neighbours. -/
theorem sortedKeys_eq_dedup (ds : List Delimiter) :
    sortedKeys ds = ((ds.map Delimiter.key).mergeSort fun a b => (a.compare b).isLE).dedup := by
  have hantisymm : Std.Antisymm fun a b : Key => (a.compare b).isLE = true := by
    constructor
    intro a b hab hba
    exact Std.LawfulEqCmp.eq_of_compare (Std.OrientedCmp.isLE_antisymm hab hba)
  exact (sorted_mergeSort _).destutter_eq_dedup

theorem mem_sortedKeys {k : Key} : k ∈ sortedKeys ds ↔ ∃ d ∈ ds, d.key = k := by
  rw [sortedKeys_eq_dedup, List.mem_dedup, List.mem_mergeSort, List.mem_map]

theorem rising_sortedKeys (ds : List Delimiter) : Rising (sortedKeys ds) := by
  rw [sortedKeys_eq_dedup]
  have hsorted := (sorted_mergeSort (ds.map Delimiter.key)).sublist (List.dedup_sublist _)
  refine (hsorted.and (List.nodup_dedup _)).imp ?_
  intro a b ⟨hle, hne⟩
  cases h : a.compare b with
  | lt => rfl
  | eq => exact absurd (Std.LawfulEqCmp.eq_of_compare h) hne
  | gt =>
    rw [h] at hle
    cases hle

/-- Putting keys into a rising list one by one comes to sorting them. -/
theorem keys_ofDelimiters (ds : List Delimiter) : (ofDelimiters ds).keys = sortedKeys ds :=
  (rising_ofDelimiters ds).ext (rising_sortedKeys ds) fun k => by
    rw [mem_ofDelimiters, mem_sortedKeys]

theorem mem_ofDelimiters_literal {text : String} :
    Key.literal text ∈ (ofDelimiters ds).keys ↔ Delimiter.literal text ∈ ds := by
  simp only [mem_ofDelimiters, Delimiter.key_eq_literal_iff, exists_eq_right]

theorem mem_ofDelimiters_pattern {p : Pattern} :
    Key.pattern p.source p.flags ∈ (ofDelimiters ds).keys ↔ Delimiter.pattern p ∈ ds := by
  simp only [mem_ofDelimiters, Delimiter.key_eq_pattern_iff, exists_eq_right]

/-- The set of some delimiters is a canonical form of their keys. It is what sorting and dropping
repeated neighbours gives, it rises in the order of keys, it holds their keys and no others, and two
lists have the same one if each key of either occurs in the other. A literal is told from a pattern
of its text, and patterns of one source by their flags. -/
theorem ofDelimiters_canonical (ds es : List Delimiter) :
    (ofDelimiters ds).keys = sortedKeys ds ∧
    (ofDelimiters ds).keys.Pairwise Key.Before ∧
    (∀ k, k ∈ (ofDelimiters ds).keys ↔ ∃ d ∈ ds, d.key = k) ∧
    ((ofDelimiters ds).keys = (ofDelimiters es).keys ↔
      (∀ d ∈ ds, ∃ e ∈ es, e.key = d.key) ∧ ∀ e ∈ es, ∃ d ∈ ds, d.key = e.key) ∧
    (∀ text, Key.literal text ∈ (ofDelimiters ds).keys ↔ Delimiter.literal text ∈ ds) ∧
    (∀ p : Pattern, Key.pattern p.source p.flags ∈ (ofDelimiters ds).keys ↔
      Delimiter.pattern p ∈ ds) := by
  refine ⟨keys_ofDelimiters ds, ?_, fun k => mem_ofDelimiters, ⟨fun h => ⟨?_, ?_⟩, fun h => ?_⟩,
    fun text => mem_ofDelimiters_literal, fun p => mem_ofDelimiters_pattern⟩
  · exact (rising_ofDelimiters ds).imp Key.compare_eq_lt_iff.mp
  · intro d hd
    rw [← mem_ofDelimiters, ← h, mem_ofDelimiters]
    exact ⟨d, hd, rfl⟩
  · intro e he
    rw [← mem_ofDelimiters, h, mem_ofDelimiters]
    exact ⟨e, he, rfl⟩
  · obtain ⟨hds, hes⟩ := h
    refine congrArg keys (ofDelimiters_eq_iff.mpr fun k => ⟨?_, ?_⟩)
    · rintro ⟨d, hd, rfl⟩
      exact hds d hd
    · rintro ⟨e, he, rfl⟩
      exact hes e he

/-- Literals come before patterns, a letter of one byte before one of two, and a pattern before one
with a switch on. The order and the repeats of the delimiters are lost. -/
theorem canonical_of_letters :
    ∃ p q, Pattern.compile "a" {} = .ok p ∧ Pattern.compile "a" { multiLine := true } = .ok q ∧
      (ofDelimiters [.pattern q, .literal "é", .pattern p, .literal "z", .literal "é"]).keys =
        [.literal "z", .literal "é", .pattern "a" {}, .pattern "a" { multiLine := true }] ∧
      (ofDelimiters [.pattern q, .literal "é", .pattern p, .literal "z", .literal "é"]).keys =
        (ofDelimiters [.literal "z", .pattern p, .literal "é", .pattern q]).keys ∧
      Key.pattern q.source q.flags ∉ (ofDelimiters [.pattern p, .literal "a"]).keys := by
  obtain ⟨p, hp⟩ : ∃ p, Pattern.compile "a" {} = .ok p := ⟨_, rfl⟩
  obtain ⟨q, hq⟩ : ∃ q, Pattern.compile "a" { multiLine := true } = .ok q := ⟨_, rfl⟩
  obtain ⟨hpsource, hpflags⟩ := Pattern.parts_of_compile hp
  obtain ⟨hqsource, hqflags⟩ := Pattern.parts_of_compile hq
  refine ⟨p, q, hp, hq, ?_, ?_, ?_⟩
  · rw [ofDelimiters]
    simp only [List.map_cons, List.map_nil, Delimiter.key, hpsource, hpflags, hqsource, hqflags]
    decide
  · obtain ⟨-, -, -, hsame, -⟩ := ofDelimiters_canonical
      [.pattern q, .literal "é", .pattern p, .literal "z", .literal "é"]
      [.literal "z", .pattern p, .literal "é", .pattern q]
    refine hsame.mpr ⟨?_, ?_⟩ <;> simp
  · obtain ⟨-, -, -, -, -, hpattern⟩ := ofDelimiters_canonical [.pattern p, .literal "a"] []
    rw [hpattern]
    intro hmem
    rcases List.mem_cons.mp hmem with hsame | hmem
    · have hflags := congrArg Pattern.flags (Delimiter.pattern.inj hsame)
      rw [hpflags, hqflags] at hflags
      cases hflags
    · cases List.mem_singleton.mp hmem

end KeySet

end DelimiterScan
