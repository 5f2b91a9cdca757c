import DelimiterScan.Proofs.Cache.Requests
import Mathlib.Algebra.GroupWithZero.Nat
import Mathlib.Algebra.Order.BigOperators.Group.List
import Mathlib.Algebra.Order.Group.Nat

/-!
# How much a cache holds

A cache has a table and an order of age, which insertions and evictions change together. In an
`Orderly` cache both name the same texts, the entries of a text are few and for different requests,
and every list of keys is rising. Every cache that operations lead to is so (`orderly_after`). Hence
the number of results has a bound, and it is zero only where there is no text.
-/

namespace DelimiterScan

theorem CacheRecord.WellFormed.apart {record : CacheRecord} (h : record.WellFormed) :
    record.entries.Pairwise fun e e' => ¬ (e.keys = e'.keys ∧ e.fingerprint = e'.fingerprint) := by
  refine (List.pairwise_map.mp h.nodup).imp fun hne hsame => hne ?_
  exact Prod.ext hsame.1 hsame.2

namespace Cache

variable {c : Cache}

/-! ## The number of results -/

theorem size_eq_sum (c : Cache) : c.size = (c.records.map (·.entries.length)).sum := by
  rw [size, List.sum_eq_foldl, List.foldl_map]

theorem WellFormed.length_records (h : c.WellFormed) : c.records.length = c.order.length := by
  rw [← h.keys, List.length_map]

/-- No text is without a result. -/
theorem WellFormed.length_records_le_size (h : c.WellFormed) : c.records.length ≤ c.size := by
  have hpos : ∀ n ∈ c.records.map (·.entries.length), 1 ≤ n := by
    intro n hn
    obtain ⟨record, hrecord, rfl⟩ := List.mem_map.mp hn
    exact List.length_pos_iff.mpr (h.records record hrecord).ne_nil
  have hlength := List.length_le_sum_of_one_le _ hpos
  rwa [List.length_map, ← size_eq_sum] at hlength

theorem WellFormed.size_le (h : c.WellFormed) : c.size ≤ maxEntries * c.records.length := by
  have hle : ∀ n ∈ c.records.map (·.entries.length), n ≤ maxEntries := by
    intro n hn
    obtain ⟨record, hrecord, rfl⟩ := List.mem_map.mp hn
    exact (h.records record hrecord).length_le
  have hsum := List.sum_le_card_nsmul _ _ hle
  rwa [← size_eq_sum, List.length_map, Nat.nsmul_eq_mul, Nat.mul_comm] at hsum

theorem WellFormed.isEmpty_iff (h : c.WellFormed) : c.isEmpty = true ↔ c.size = 0 := by
  have hlow := h.length_records_le_size
  have hhigh := h.size_le
  rw [isEmpty, List.isEmpty_iff_length_eq_zero]
  constructor
  · intro hnone
    rw [hnone, Nat.mul_zero] at hhigh
    exact Nat.le_zero.mp hhigh
  · intro hnone
    exact Nat.le_zero.mp (hnone ▸ hlow)

/-! ## The shape of a cache -/

/-- The shape of a cache for `n` texts. -/
structure Orderly (n : Nat) (c : Cache) : Prop where
  /-- The table has one record for each of its texts. -/
  table : (c.records.map (·.input)).Nodup
  /-- The order of age names the texts of the table, once each. -/
  nodup : c.order.Nodup
  mem_order : ∀ x, x ∈ c.order ↔ ∃ record ∈ c.records, record.input = x
  length_order : c.order.length ≤ max n 1
  pos : ∀ record ∈ c.records, 1 ≤ record.entries.length
  length_entries : ∀ record ∈ c.records, record.entries.length ≤ maxEntries
  /-- No two entries of a text are for the same keys and the same options. -/
  apart : ∀ record ∈ c.records, record.entries.Pairwise fun e e' =>
    ¬ (e.keys = e'.keys ∧ e.fingerprint = e'.fingerprint)
  rising : ∀ record ∈ c.records, ∀ e ∈ record.entries, KeySet.Rising e.keys.keys
  size_le : c.size ≤ maxEntries * max n 1
  isEmpty_iff : c.isEmpty = true ↔ c.size = 0

/-- The keys of an entry are those of a request, so they are rising. -/
theorem Sourced.rising {qs : List Request} (h : c.Sourced qs) {record : CacheRecord}
    (hrecord : record ∈ c.records) {e : CacheEntry} (he : e ∈ record.entries) :
    KeySet.Rising e.keys.keys := by
  obtain ⟨q, -, -, hholds⟩ := h record hrecord e he
  rw [hholds.keys]
  exact KeySet.rising_ofDelimiters q.delims

/-- Whatever is done with a cache, its table and its order of age go together, and the bounds are
kept. A cache for no text is one for a single text. -/
theorem orderly_after (n : Nat) (ops : List Op) : (after n ops).Orderly n := by
  have hwell : (after n ops).WellFormed := wellFormed_after n ops
  have hlength : (after n ops).order.length ≤ max n 1 := by
    rw [← maxInputs_after n ops]
    exact hwell.length_le
  constructor
  · exact hwell.keys ▸ hwell.nodup
  · exact hwell.nodup
  · intro x
    rw [← hwell.keys, List.mem_map]
  · exact hlength
  · intro record hrecord
    exact List.length_pos_iff.mpr (hwell.records record hrecord).ne_nil
  · intro record hrecord
    exact (hwell.records record hrecord).length_le
  · intro record hrecord
    exact (hwell.records record hrecord).apart
  · intro record hrecord e he
    exact (sourced_after n ops).rising hrecord he
  · rw [← hwell.length_records] at hlength
    exact hwell.size_le.trans (Nat.mul_le_mul_left _ hlength)
  · exact hwell.isEmpty_iff

end Cache

end DelimiterScan
