import DelimiterScan.Delimiter.Key
import Mathlib.Data.List.Sort

/-!
# Sets of keys

Keys are ordered by a total order in which only equal keys compare as equal. So the rising list of
some delimiters holds exactly their keys (`mem_ofDelimiters`), and the lists of two are equal if the
same keys occur in both, in whatever order and however often (`ofDelimiters_eq_iff`).
-/

namespace DelimiterScan

theorem Regex.Flags.rank_injective {f g : Regex.Flags} (h : f.rank = g.rank) : f = g := by
  obtain ⟨a, b, c, d⟩ := f
  obtain ⟨a', b', c', d'⟩ := g
  revert a b c d a' b' c' d'
  decide

namespace Delimiter.Key

/-! ## The order of keys -/

def kind : Key → Nat
  | literal _ => 0
  | pattern _ _ => 1
  | predicate _ => 2

/-- The text that the key is ordered by within its kind. -/
def text : Key → String
  | literal text => text
  | pattern source _ => source
  | predicate _ => ""

/-- The number that decides between keys of one kind and text. -/
def number : Key → Nat
  | literal _ => 0
  | pattern _ flags => flags.rank
  | predicate identity => identity

theorem compare_eq_compareLex :
    compare = compareLex (compareOn kind) (compareLex (compareOn text) (compareOn number)) := by
  funext a b
  cases a <;> cases b
  case literal.literal | pattern.pattern | predicate.predicate =>
    simp [compare, compareLex, compareOn, kind, text, number]
  all_goals rfl

instance : Std.TransCmp compare := by
  rw [compare_eq_compareLex]
  infer_instance

/-- Keys of the same kind, text and number are the same. -/
theorem ext_kind {a b : Key} (hkind : a.kind = b.kind) (htext : a.text = b.text)
    (hnumber : a.number = b.number) : a = b := by
  cases a <;> cases b <;> simp only [kind, reduceCtorEq, Nat.reduceEqDiff] at hkind
  case literal.literal => exact congrArg literal htext
  case pattern.pattern s f t g =>
    obtain rfl : s = t := htext
    rw [Regex.Flags.rank_injective hnumber]
  case predicate.predicate => exact congrArg predicate hnumber

instance : Std.LawfulEqCmp compare where
  compare_self := by simp [compare_eq_compareLex, compareLex, compareOn]
  eq_of_compare {a b} h := by
    rw [compare_eq_compareLex] at h
    simp [compareLex, compareOn, Ordering.then_eq_eq] at h
    exact ext_kind h.1 h.2.1 h.2.2

end Delimiter.Key

namespace KeySet

open Delimiter (Key)

variable {k l : Key} {ks : List Key} {ds es : List Delimiter}

/-! ## Rising lists -/

theorem mem_insertKey : l ∈ insertKey k ks ↔ l = k ∨ l ∈ ks := by
  induction ks with
  | nil => simp [insertKey]
  | cons head rest ih =>
    unfold insertKey
    split
    · simp
    · next heq =>
      rw [Std.LawfulEqCmp.eq_of_compare heq]
      simp
    · rw [List.mem_cons, ih, List.mem_cons]
      tauto

/-- Every key comes before those behind it. -/
def Rising (ks : List Key) : Prop := ks.Pairwise fun k l => k.compare l = .lt

theorem rising_insertKey (h : Rising ks) (k : Key) : Rising (insertKey k ks) := by
  induction ks with
  | nil => exact List.pairwise_singleton _ k
  | cons head rest ih =>
    obtain ⟨hhead, hrest⟩ := List.pairwise_cons.mp h
    unfold insertKey
    split
    · next hlt =>
      refine List.pairwise_cons.mpr ⟨fun l hl => ?_, h⟩
      rcases List.mem_cons.mp hl with rfl | hl
      · exact hlt
      · exact Std.TransCmp.lt_trans hlt (hhead l hl)
    · exact h
    · next hgt =>
      -- The key goes in farther behind, so `head` stays below all others.
      refine List.pairwise_cons.mpr ⟨fun l hl => ?_, ih hrest⟩
      rcases mem_insertKey.mp hl with rfl | hl
      · exact Std.OrientedCmp.gt_iff_lt.mp hgt
      · exact hhead l hl

/-- The set of some delimiters holds their keys and no others. -/
theorem mem_ofDelimiters : k ∈ (ofDelimiters ds).keys ↔ ∃ d ∈ ds, d.key = k := by
  unfold ofDelimiters
  induction ds with
  | nil => simp
  | cons d ds ih =>
    rw [List.map_cons, List.foldr_cons, mem_insertKey, ih, List.exists_mem_cons_iff]
    tauto

theorem rising_ofDelimiters (ds : List Delimiter) : Rising (ofDelimiters ds).keys := by
  unfold ofDelimiters
  induction ds with
  | nil => exact .nil
  | cons d ds ih => exact rising_insertKey ih d.key

/-- Rising lists of the same keys are equal. -/
theorem Rising.ext {ks ls : List Key} (hks : Rising ks) (hls : Rising ls)
    (h : ∀ k, k ∈ ks ↔ k ∈ ls) : ks = ls := by
  have hirrefl : Std.Irrefl fun k l : Key => k.compare l = .lt := by
    constructor
    intro k hk
    have hself : k.compare k = .eq := Std.ReflCmp.compare_self
    simp [hself] at hk
  have hantisymm : Std.Antisymm fun k l : Key => k.compare l = .lt := by
    constructor
    intro k l hkl hlk
    have hgt : k.compare l = .gt := Std.OrientedCmp.gt_iff_lt.mpr hlk
    simp [hgt] at hkl
  exact List.Pairwise.eq_of_mem_iff hks hls h

/-- Two lists of delimiters have the same set if the same keys occur in both. -/
theorem ofDelimiters_eq_iff : ofDelimiters ds = ofDelimiters es ↔
    ∀ k, (∃ d ∈ ds, d.key = k) ↔ ∃ e ∈ es, e.key = k := by
  constructor
  · intro h k
    rw [← mem_ofDelimiters, h, mem_ofDelimiters]
  · intro h
    have hkeys : (ofDelimiters ds).keys = (ofDelimiters es).keys := by
      refine (rising_ofDelimiters ds).ext (rising_ofDelimiters es) fun k => ?_
      rw [mem_ofDelimiters, mem_ofDelimiters, h]
    generalize ofDelimiters ds = left, ofDelimiters es = right at hkeys
    cases left
    cases right
    exact congrArg KeySet.mk hkeys

end KeySet

end DelimiterScan
