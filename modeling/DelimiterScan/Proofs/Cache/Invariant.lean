import DelimiterScan.Proofs.Cache.History
import Mathlib.Data.List.Nodup

/-!
# What requests keep of a cache

A cache names its texts twice, in the table and in the order of age. In a well-formed cache both
name the same texts, once each, and the bounds are kept. There, making room takes one text at most,
and a miss stays a miss until its result is stored, so storing pushes one entry and at most one text
(`WellFormed.adds`). Every cache that operations lead to is well-formed (`wellFormed_after`).
-/

namespace DelimiterScan

def CacheEntry.key (e : CacheEntry) : KeySet × Options.Fingerprint := (e.keys, e.fingerprint)

theorem CacheEntry.answers_eq (e : CacheEntry) (keys : KeySet)
    (fingerprint : Options.Fingerprint) :
    e.answers keys fingerprint = decide (e.key = (keys, fingerprint)) := by
  simp [answers, key]

/-- The entries of a text: one at least, not too many, and no two for the same requests. -/
structure CacheRecord.WellFormed (record : CacheRecord) : Prop where
  ne_nil : record.entries ≠ []
  length_le : record.entries.length ≤ Cache.maxEntries
  nodup : (record.entries.map (·.key)).Nodup

namespace Cache

/-! ## Lists with a bound -/

section PushBounded

variable {α β : Type} {bound : Nat} {xs : List α} {x : α}

theorem mem_pushBounded_self : x ∈ pushBounded bound xs x :=
  List.mem_append_right _ (List.mem_singleton_self x)

theorem length_pushBounded_le (hpos : 0 < bound) (h : xs.length ≤ bound) :
    (pushBounded bound xs x).length ≤ bound := by
  unfold pushBounded
  rw [List.length_append, List.length_singleton]
  split
  · rw [List.length_tail]
    omega
  · omega

theorem nodup_pushBounded (h : xs.Nodup) (hx : x ∉ xs) : (pushBounded bound xs x).Nodup := by
  have hkept : (if bound ≤ xs.length then xs.tail else xs).Sublist xs := by
    split
    · exact List.tail_sublist xs
    · exact List.Sublist.refl xs
  refine List.nodup_append.mpr ⟨h.sublist hkept, List.nodup_singleton x, ?_⟩
  intro y hy z hz
  obtain rfl := List.mem_singleton.mp hz
  exact ne_of_mem_of_not_mem (hkept.subset hy) hx

theorem map_pushBounded (f : α → β) :
    (pushBounded bound xs x).map f = pushBounded bound (xs.map f) (f x) := by
  unfold pushBounded
  rw [List.map_append, List.length_map]
  split
  · rw [List.map_tail]
    rfl
  · rfl

end PushBounded

/-- With one element for each key, the element of a key is found. -/
theorem find?_key {α κ : Type} [DecidableEq κ] {key : α → κ} {xs : List α} {x : α}
    (hnodup : (xs.map key).Nodup) (hx : x ∈ xs) : xs.find? (key · = key x) = some x := by
  cases hfind : xs.find? (key · = key x) with
  | none => simpa using List.find?_eq_none.mp hfind x hx
  | some y =>
    have hkey : key y = key x := by simpa using List.find?_some hfind
    rw [List.inj_on_of_nodup_map hnodup (List.mem_of_find?_eq_some hfind) hx hkey]

/-! ## Making room -/

variable {c : Cache} {q : Request} {x y : String} {e : CacheEntry} {record : CacheRecord}

theorem evict_of_lt {bound : Nat} {order : List String} {records : List CacheRecord}
    (h : order.length < bound) : evict bound order records = (order, records) := by
  cases order with
  | nil => rfl
  | cons oldest order =>
    unfold evict
    rw [if_neg (by simpa using h)]

/-- From a full order one text goes, and from the table its record. -/
theorem evict_eq {bound : Nat} {order : List String} {records : List CacheRecord}
    (hpos : 0 < bound) (hlength : order.length ≤ bound) (hkeys : records.map (·.input) = order)
    (hnodup : order.Nodup) :
    evict bound order records =
      if bound ≤ order.length then (order.tail, records.tail) else (order, records) := by
  by_cases hfull : bound ≤ order.length
  · rw [if_pos hfull]
    cases records with
    | nil =>
      subst hkeys
      exact absurd hfull (Nat.not_le.mpr hpos)
    | cons record records =>
      subst hkeys
      obtain ⟨hfresh, -⟩ := List.nodup_cons.mp hnodup
      -- No other record is of the oldest text, so the table loses just the first one.
      have hrest : (record :: records).filter (·.input ≠ record.input) = records := by
        rw [List.filter_cons_of_neg (by simp)]
        refine List.filter_eq_self.mpr fun other hother => ?_
        have hne : other.input ≠ record.input := by
          intro heq
          exact hfresh (List.mem_map.mpr ⟨other, hother, heq⟩)
        simpa using hne
      simp only [List.map_cons, List.length_cons] at hfull hlength
      rw [List.map_cons, evict, if_pos hfull, hrest, evict_of_lt (by omega)]
      rfl
  · rw [if_neg hfull, evict_of_lt (by omega)]

/-! ## Well-formed caches -/

def contains (c : Cache) (x : String) : Bool := c.records.any (·.input = x)

theorem contains_iff : c.contains x = true ↔ ∃ record ∈ c.records, record.input = x := by
  simp [contains]

/-- The table and the order of age name the same texts, once each and not too many. -/
structure WellFormed (c : Cache) : Prop where
  pos : 0 < c.maxInputs
  keys : c.records.map (·.input) = c.order
  nodup : c.order.Nodup
  length_le : c.order.length ≤ c.maxInputs
  records : ∀ record ∈ c.records, record.WellFormed

namespace WellFormed

theorem exists_record (h : c.WellFormed) (hx : x ∈ c.order) :
    ∃ record ∈ c.records, record.input = x := by
  rw [← h.keys] at hx
  exact List.mem_map.mp hx

theorem input_mem_order (h : c.WellFormed) (hrecord : record ∈ c.records) :
    record.input ∈ c.order := by
  rw [← h.keys]
  exact List.mem_map_of_mem hrecord

theorem contains_iff_mem_order (h : c.WellFormed) : c.contains x = true ↔ x ∈ c.order := by
  rw [contains_iff, ← h.keys, List.mem_map]

theorem not_mem_order (h : c.WellFormed) (hx : c.contains x = false) : x ∉ c.order := by
  rw [← h.contains_iff_mem_order, hx]
  exact Bool.false_ne_true

theorem entriesOf_input (h : c.WellFormed) (hrecord : record ∈ c.records) :
    c.entriesOf record.input = record.entries := by
  have hnodup : (c.records.map (·.input)).Nodup := h.keys ▸ h.nodup
  rw [entriesOf, find?_key hnodup hrecord]

theorem entriesOf_eq_nil (h : c.WellFormed) (hx : x ∉ c.order) : c.entriesOf x = [] := by
  unfold entriesOf
  split
  · rfl
  · next found hfound =>
    have hinput : found.input = x := by simpa using List.find?_some hfound
    exact absurd (hinput ▸ h.input_mem_order (List.mem_of_find?_eq_some hfound)) hx

theorem length_entriesOf_le (h : c.WellFormed) (x : String) :
    (c.entriesOf x).length ≤ maxEntries := by
  by_cases hx : x ∈ c.order
  · obtain ⟨record, hrecord, rfl⟩ := h.exists_record hx
    rw [h.entriesOf_input hrecord]
    exact (h.records record hrecord).length_le
  · rw [h.entriesOf_eq_nil hx]
    exact Nat.zero_le _

theorem nodup_entriesOf (h : c.WellFormed) (x : String) :
    ((c.entriesOf x).map (·.key)).Nodup := by
  by_cases hx : x ∈ c.order
  · obtain ⟨record, hrecord, rfl⟩ := h.exists_record hx
    rw [h.entriesOf_input hrecord]
    exact (h.records record hrecord).nodup
  · rw [h.entriesOf_eq_nil hx]
    exact .nil

theorem lookup_of_mem (h : c.WellFormed) (he : e ∈ c.entriesOf x) :
    c.lookup x e.keys e.fingerprint = some e.result := by
  have hfind : (c.entriesOf x).find? (·.key = e.key) = some e := find?_key (h.nodup_entriesOf x) he
  simp only [lookup, CacheEntry.answers_eq]
  exact congrArg (Option.map (·.result)) hfind

end WellFormed

theorem lookup_eq_none_iff {keys : KeySet} {fingerprint : Options.Fingerprint} :
    c.lookup x keys fingerprint = none ↔ (keys, fingerprint) ∉ (c.entriesOf x).map (·.key) := by
  simp [lookup, CacheEntry.answers_eq]

/-! ## Storing -/

theorem addEntry_of_missed (h : e.key ∉ record.entries.map (·.key)) :
    addEntry record e = { record with entries := pushBounded maxEntries record.entries e } := by
  unfold addEntry
  rw [if_neg]
  intro hany
  obtain ⟨other, hother, hanswers⟩ := List.any_eq_true.mp hany
  rw [CacheEntry.answers_eq] at hanswers
  exact h (List.mem_map.mpr ⟨other, hother, of_decide_eq_true hanswers⟩)

theorem wellFormed_addEntry (h : record.WellFormed) (hmissed : e.key ∉ record.entries.map (·.key)) :
    (addEntry record e).WellFormed := by
  rw [addEntry_of_missed hmissed]
  refine ⟨List.ne_nil_of_mem mem_pushBounded_self, ?_, ?_⟩
  · exact length_pushBounded_le (by decide) h.length_le
  · rw [map_pushBounded]
    exact nodup_pushBounded h.nodup hmissed

theorem wellFormed_single (x : String) (e : CacheEntry) : CacheRecord.WellFormed ⟨x, [e]⟩ :=
  ⟨List.cons_ne_nil e [], by simp [maxEntries], List.nodup_singleton e.key⟩

theorem store_held (hx : c.contains x = true) (e : CacheEntry) :
    c.store x e = { c with
      records := c.records.map fun record =>
        if record.input = x then addEntry record e else record } :=
  if_pos hx

theorem WellFormed.store_absent (h : c.WellFormed) (hx : c.contains x = false) (e : CacheEntry) :
    c.store x e = { c with
      records := pushBounded c.maxInputs c.records ⟨x, [e]⟩,
      order := pushBounded c.maxInputs c.order x } := by
  have hnone : ¬ c.records.any (·.input = x) = true := Bool.not_eq_true _ ▸ hx
  have hlength : c.records.length = c.order.length := by
    rw [← h.keys, List.length_map]
  unfold store pushBounded
  rw [if_neg hnone, evict_eq h.pos h.length_le h.keys h.nodup, hlength]
  by_cases hfull : c.maxInputs ≤ c.order.length
  · simp only [if_pos hfull]
  · simp only [if_neg hfull]

theorem WellFormed.store_to_record (h : c.WellFormed) (hx : c.contains x = true)
    (hmissed : e.key ∉ (c.entriesOf x).map (·.key)) : (c.store x e).WellFormed := by
  rw [store_held hx]
  refine ⟨h.pos, ?_, h.nodup, h.length_le, ?_⟩
  · refine Eq.trans ?_ h.keys
    rw [List.map_map]
    refine List.map_congr_left fun record _ => ?_
    dsimp only [Function.comp_apply]
    split
    · exact input_addEntry record e
    · rfl
  · intro record hrecord
    obtain ⟨old, hold, rfl⟩ := List.mem_map.mp hrecord
    have hwell := h.records old hold
    split
    · next hinput =>
      subst hinput
      rw [h.entriesOf_input hold] at hmissed
      exact wellFormed_addEntry hwell hmissed
    · exact hwell

theorem WellFormed.store_to_table (h : c.WellFormed) (hx : c.contains x = false)
    (e : CacheEntry) : (c.store x e).WellFormed := by
  have hnew := h.not_mem_order hx
  rw [h.store_absent hx]
  refine ⟨h.pos, ?_, nodup_pushBounded h.nodup hnew, length_pushBounded_le h.pos h.length_le, ?_⟩
  · rw [map_pushBounded, h.keys]
  · intro record hrecord
    rcases mem_pushBounded hrecord with hold | rfl
    · exact h.records record hold
    · exact wellFormed_single x e

theorem WellFormed.store (h : c.WellFormed) (hmissed : e.key ∉ (c.entriesOf x).map (·.key)) :
    (c.store x e).WellFormed := by
  cases hx : c.contains x with
  | true => exact h.store_to_record hx hmissed
  | false => exact h.store_to_table hx e

/-- One more entry is the newest one of its text. The oldest one of the text makes room if there
are too many of them, and the oldest text if the text is new and there are too many texts. -/
structure Adds (c : Cache) (x : String) (e : CacheEntry) (c' : Cache) : Prop where
  maxInputs : c'.maxInputs = c.maxInputs
  order : c'.order = if c.contains x then c.order else pushBounded c.maxInputs c.order x
  entries : c'.entriesOf x = pushBounded maxEntries (c.entriesOf x) e
  others : ∀ y ≠ x, c'.entriesOf y = if y ∈ c'.order then c.entriesOf y else []

theorem WellFormed.adds_to_record (h : c.WellFormed) (hx : c.contains x = true)
    (hmissed : e.key ∉ (c.entriesOf x).map (·.key)) : Adds c x e (c.store x e) := by
  have hstore := h.store_to_record hx hmissed
  rw [store_held hx] at hstore ⊢
  -- The record that an old one has become is in the table, under the same text.
  have hbecome (record : CacheRecord) (hrecord : record ∈ c.records) :=
    hstore.entriesOf_input (List.mem_map_of_mem hrecord)
  refine ⟨rfl, (if_pos hx).symm, ?_, fun y hy => ?_⟩
  · obtain ⟨record, hrecord, rfl⟩ := contains_iff.mp hx
    have hentries := h.entriesOf_input hrecord
    rw [hentries] at hmissed ⊢
    simpa [addEntry_of_missed hmissed] using hbecome record hrecord
  · split
    · next hheld =>
      obtain ⟨record, hrecord, rfl⟩ := h.exists_record hheld
      rw [h.entriesOf_input hrecord]
      simpa [hy] using hbecome record hrecord
    · next hgone => exact hstore.entriesOf_eq_nil hgone

theorem WellFormed.adds_to_table (h : c.WellFormed) (hx : c.contains x = false)
    (e : CacheEntry) : Adds c x e (c.store x e) := by
  have hstore := h.store_to_table hx e
  have hnew := h.not_mem_order hx
  rw [h.store_absent hx] at hstore ⊢
  -- The texts that are left were there before, so their records were as well.
  refine ⟨rfl, by rw [hx]; rfl, ?_, fun y hy => ?_⟩
  · rw [h.entriesOf_eq_nil hnew]
    exact hstore.entriesOf_input mem_pushBounded_self
  · split
    · next hheld =>
      obtain ⟨record, hrecord, rfl⟩ := hstore.exists_record hheld
      rw [hstore.entriesOf_input hrecord]
      rcases mem_pushBounded hrecord with hold | rfl
      · exact (h.entriesOf_input hold).symm
      · exact absurd rfl hy
    · next hgone => exact hstore.entriesOf_eq_nil hgone

theorem WellFormed.adds (h : c.WellFormed) (hmissed : e.key ∉ (c.entriesOf x).map (·.key)) :
    Adds c x e (c.store x e) := by
  cases hx : c.contains x with
  | true => exact h.adds_to_record hx hmissed
  | false => exact h.adds_to_table hx e

/-! ## Runs of operations -/

theorem wellFormed_ofMaxInputs (n : Nat) : (ofMaxInputs n).WellFormed :=
  ⟨Nat.le_max_right n 1, rfl, .nil, Nat.zero_le _, fun _ hrecord => nomatch hrecord⟩

theorem WellFormed.ask (h : c.WellFormed) (q : Request) : (c.ask q).2.WellFormed := by
  have hanswer := answer_ask c q
  revert hanswer
  generalize c.ask q = answer
  rintro (_ | _ | _ | ⟨-, hmiss, -⟩)
  · exact h
  · exact h
  · exact h
  · exact h.store (lookup_eq_none_iff.mp hmiss)

theorem WellFormed.clear (h : c.WellFormed) : c.clear.WellFormed :=
  ⟨h.pos, rfl, .nil, Nat.zero_le _, fun _ hrecord => nomatch hrecord⟩

theorem WellFormed.apply (h : c.WellFormed) (op : Op) : (c.apply op).WellFormed := by
  cases op with
  | scan q => exact h.ask q
  | clear => exact h.clear

theorem wellFormed_after (n : Nat) (ops : List Op) : (after n ops).WellFormed := by
  induction ops using List.reverseRecOn with
  | nil => exact wellFormed_ofMaxInputs n
  | append_singleton ops op ih =>
    rw [after_concat]
    exact ih.apply op

end Cache

end DelimiterScan
