import DelimiterScan.Proofs.Cache.Invariant
import DelimiterScan.Proofs.Cache.Transparency
import DelimiterScan.Proofs.KeySet

/-!
# What a request does to a cache

An entry serves a request if it has the same set of keys and the same fingerprint; the order of the
delimiters does not count. A request that is served, passes the cache by or fails leaves it as it
is, and any other one adds one entry (`ask_spec`). What is served is the fresh result of an earlier
request, but for the delimiters and the options that it names.
-/

namespace DelimiterScan

/-- The same keys occur in both lists, in whatever order and however often. -/
def Delimiter.SameKeys (ds es : List Delimiter) : Prop :=
  ∀ k, (∃ d ∈ ds, d.key = k) ↔ ∃ e ∈ es, e.key = k

namespace Cache

variable {c : Cache} {q p : Request} {e : CacheEntry} {n : Nat} {ops : List Op}

/-! ## Serving -/

/-- The entry is for the keys of the delimiters and for the fingerprint of the options. -/
structure Serves (e : CacheEntry) (q : Request) : Prop where
  keys : ∀ k, k ∈ e.keys.keys ↔ ∃ d ∈ q.delims, d.key = k
  fingerprint : e.fingerprint = q.options.fingerprint

theorem Holds.sameKeys (h : Holds e p) (hserves : Serves e q) :
    Delimiter.SameKeys p.delims q.delims := by
  intro k
  rw [← hserves.keys k, h.keys]
  exact KeySet.mem_ofDelimiters.symm

/-- Keys are kept as rising lists, so equal sets of them are found by comparing lists. -/
theorem Holds.serves_iff (h : Holds e p) :
    Serves e q ↔ e.key = (q.keys, q.options.fingerprint) := by
  rw [CacheEntry.key, Prod.mk.injEq]
  constructor
  · intro hserves
    refine ⟨?_, hserves.fingerprint⟩
    rw [h.keys]
    exact KeySet.ofDelimiters_eq_iff.mpr (h.sameKeys hserves)
  · rintro ⟨hkeys, hprint⟩
    refine ⟨fun k => ?_, hprint⟩
    rw [hkeys]
    exact KeySet.mem_ofDelimiters

theorem exists_source {qs : List Request} {x : String} (hc : c.Sourced qs)
    (he : e ∈ c.entriesOf x) : ∃ p ∈ qs, p.input = x ∧ Holds e p := by
  obtain ⟨record, hrecord, rfl, hmem⟩ := exists_record_of_mem he
  exact hc record hrecord e hmem

theorem lookup_eq_none_iff_serves {qs : List Request} (hc : c.Sourced qs) :
    c.lookup q.input q.keys q.options.fingerprint = none ↔
      ∀ e ∈ c.entriesOf q.input, ¬ Serves e q := by
  rw [lookup_eq_none_iff, List.mem_map, not_exists]
  refine forall_congr' fun e => ?_
  rw [not_and]
  refine forall_congr' fun he => ?_
  obtain ⟨p, -, -, hholds⟩ := exists_source hc he
  rw [hholds.serves_iff]

/-! ## Answers -/

theorem ask_of_not_cache (h : q.options.cache = false) : c.ask q = (q.fresh, c) :=
  if_pos (by simpa using h)

theorem ask_of_cache (h : q.options.cache = true) :
    c.ask q =
      match c.lookup q.input q.keys q.options.fingerprint with
      | some r => (.ok (r.echo q.delims q.options), c)
      | none =>
        match q.fresh with
        | .error error => (.error error, c)
        | .ok r => (.ok r, c.store q.input ⟨q.keys, q.options.fingerprint, r⟩) :=
  if_neg (by simp [h])

theorem ask_of_serves {qs : List Request} (hc : c.WellFormed) (hsourced : c.Sourced qs)
    (hcache : q.options.cache = true) (he : e ∈ c.entriesOf q.input) (hserves : Serves e q) :
    c.ask q = (.ok (e.result.echo q.delims q.options), c) := by
  obtain ⟨p, -, -, hholds⟩ := exists_source hsourced he
  obtain ⟨hkeys, hprint⟩ := Prod.mk.inj (hholds.serves_iff.mp hserves)
  have hlookup := hc.lookup_of_mem he
  rw [hkeys, hprint] at hlookup
  rw [ask_of_cache hcache, hlookup]

/-! ## Storing -/

/-- Whether the request is scanned and its result kept. -/
def stores (c : Cache) (q : Request) : Bool :=
  q.options.cache && (c.lookup q.input q.keys q.options.fingerprint).isNone && q.fresh.isOk

theorem isOk_fresh : q.fresh.isOk = true ↔ ∃ r, q.fresh = .ok r := by
  cases q.fresh <;> simp [Except.isOk, Except.toBool]

theorem stores_iff : c.stores q = true ↔
    q.options.cache = true ∧ c.lookup q.input q.keys q.options.fingerprint = none ∧
      ∃ r, q.fresh = .ok r := by
  rw [stores, Bool.and_eq_true, Bool.and_eq_true, Option.isNone_iff_eq_none, isOk_fresh, and_assoc]

theorem ask_of_not_stores (h : c.stores q = false) : (c.ask q).2 = c := by
  have hanswer := answer_ask c q
  revert hanswer
  generalize c.ask q = answer
  rintro (_ | _ | _ | @⟨r, hcache, hmiss, hfresh⟩)
  · rfl
  · rfl
  · rfl
  · rw [stores_iff.mpr ⟨hcache, hmiss, r, hfresh⟩] at h
    cases h

theorem WellFormed.adds_of_stores (hc : c.WellFormed) (h : c.stores q = true) :
    ∃ r, q.fresh = .ok r ∧ (q.keys, q.options.fingerprint) ∉ (c.entriesOf q.input).map (·.key) ∧
      c.ask q = (.ok r, c.store q.input ⟨q.keys, q.options.fingerprint, r⟩) ∧
      Adds c q.input ⟨q.keys, q.options.fingerprint, r⟩ (c.ask q).2 := by
  obtain ⟨hcache, hmiss, r, hfresh⟩ := stores_iff.mp h
  have hmissed := lookup_eq_none_iff.mp hmiss
  have hask : c.ask q = (.ok r, c.store q.input ⟨q.keys, q.options.fingerprint, r⟩) := by
    rw [ask_of_cache hcache, hmiss, hfresh]
  refine ⟨r, hfresh, hmissed, hask, ?_⟩
  rw [hask]
  exact hc.adds hmissed

theorem maxInputs_ask (hc : c.WellFormed) (q : Request) : (c.ask q).2.maxInputs = c.maxInputs := by
  cases h : c.stores q with
  | false => rw [ask_of_not_stores h]
  | true =>
    obtain ⟨r, -, -, -, hadds⟩ := hc.adds_of_stores h
    exact hadds.maxInputs

theorem maxInputs_apply (hc : c.WellFormed) (op : Op) : (c.apply op).maxInputs = c.maxInputs := by
  cases op with
  | scan q => exact maxInputs_ask hc q
  | clear => rfl

theorem maxInputs_after (n : Nat) (ops : List Op) : (after n ops).maxInputs = max n 1 := by
  induction ops using List.reverseRecOn with
  | nil => rfl
  | append_singleton ops op ih =>
    rw [after_concat, maxInputs_apply (wellFormed_after n ops), ih]

/-! ## A step of a cache -/

/-- One request to a cache that operations lead to. A request with the cache off passes it by. With
an entry that serves it, that entry is the answer, and it stems from an earlier request. Without one
the answer is fresh, and unless it is an error it becomes the newest entry. -/
theorem ask_spec (maxInputs : Nat) (ops : List Op) (q : Request) :
    let c := after maxInputs ops
    c.maxInputs = max maxInputs 1 ∧
    (q.options.cache = false → c.ask q = (q.fresh, c)) ∧
    (q.options.cache = true → ∀ e ∈ c.entriesOf q.input, Serves e q →
      c.ask q = (.ok (e.result.echo q.delims q.options), c) ∧
      ∃ p ∈ requests ops, p.input = q.input ∧ Delimiter.SameKeys p.delims q.delims ∧
        p.options.fingerprint = q.options.fingerprint ∧ p.fresh = .ok e.result) ∧
    (q.options.cache = true → (∀ e ∈ c.entriesOf q.input, ¬ Serves e q) →
      (∀ error, q.fresh = .error error → c.ask q = (.error error, c)) ∧
      ∀ r, q.fresh = .ok r → (c.ask q).1 = .ok r ∧
        Adds c q.input ⟨q.keys, q.options.fingerprint, r⟩ (c.ask q).2) := by
  intro c
  have hwell : c.WellFormed := wellFormed_after maxInputs ops
  have hsourced : c.Sourced (requests ops) := sourced_after maxInputs ops
  refine ⟨maxInputs_after maxInputs ops, ask_of_not_cache, ?_, ?_⟩
  · intro hcache e he hserves
    obtain ⟨p, hp, hinput, hholds⟩ := exists_source hsourced he
    exact ⟨ask_of_serves hwell hsourced hcache he hserves, p, hp, hinput,
      hholds.sameKeys hserves, hholds.fingerprint.symm.trans hserves.fingerprint, hholds.result⟩
  · intro hcache hnone
    -- An entry serves the request if and only if it is found, so none is.
    have hmiss := (lookup_eq_none_iff_serves hsourced).mpr hnone
    constructor
    · intro error hfresh
      rw [ask_of_cache hcache, hmiss, hfresh]
    · intro r hfresh
      obtain ⟨r', hfresh', -, hask, hadds⟩ :=
        hwell.adds_of_stores (stores_iff.mpr ⟨hcache, hmiss, r, hfresh⟩)
      obtain rfl : r = r' := Except.ok.inj (hfresh.symm.trans hfresh')
      exact ⟨congrArg Prod.fst hask, hadds⟩

theorem exists_fresh_shortFirst : ∃ r, shortFirst.fresh = .ok r :=
  isOk_fresh.mp (by decide +kernel)

theorem serves_longFirst (r : ScanResult) :
    Serves ⟨shortFirst.keys, shortFirst.options.fingerprint, r⟩ longFirst := by
  refine ⟨fun k => KeySet.mem_ofDelimiters.trans ?_, rfl⟩
  simp [shortFirst, longFirst, or_comm]

def uncached : Request := { longFirst with options := { cache := false } }

def unclosed : Request := ⟨"(", {}, [.literal ","]⟩

/-- The first request is stored, the second one is served what the first one stored, the third one
passes by and the fourth one fails. -/
theorem ask_four_requests :
    ∃ r error, shortFirst.fresh = .ok r ∧ unclosed.fresh = .error error ∧
      let c := after 1 [.scan shortFirst]
      Adds (after 1 []) "a==b" ⟨shortFirst.keys, shortFirst.options.fingerprint, r⟩ c ∧
      c.ask longFirst = (.ok (r.echo longFirst.delims longFirst.options), c) ∧
      c.ask uncached = (uncached.fresh, c) ∧ c.ask unclosed = (.error error, c) := by
  obtain ⟨r, hstored⟩ := exists_fresh_shortFirst
  obtain ⟨error, hfailed⟩ : ∃ error, unclosed.fresh = .error error := by
    have hok : unclosed.fresh.isOk = false := by decide +kernel
    cases hfresh : unclosed.fresh with
    | error error => exact ⟨error, rfl⟩
    | ok r => simp [hfresh, Except.isOk, Except.toBool] at hok
  have hadds : Adds (after 1 []) "a==b" ⟨shortFirst.keys, shortFirst.options.fingerprint, r⟩
      (after 1 [.scan shortFirst]) :=
    (((ask_spec 1 [] shortFirst).2.2.2 rfl fun _ he => nomatch he).2 r hstored).2
  have hnone : (after 1 [.scan shortFirst]).entriesOf unclosed.input = [] := by
    refine (hadds.others "(" (by decide)).trans ?_
    split <;> rfl
  refine ⟨r, error, hstored, hfailed, hadds, ?_, ?_, ?_⟩
  · have hmem : ⟨shortFirst.keys, shortFirst.options.fingerprint, r⟩ ∈
        (after 1 [.scan shortFirst]).entriesOf longFirst.input :=
      hadds.entries ▸ mem_pushBounded_self
    exact ((ask_spec 1 [.scan shortFirst] longFirst).2.2.1 rfl _ hmem (serves_longFirst r)).1
  · exact (ask_spec 1 [.scan shortFirst] uncached).2.1 rfl
  · refine ((ask_spec 1 [.scan shortFirst] unclosed).2.2.2 rfl fun e he => ?_).1 error hfailed
    rw [hnone] at he
    cases he

end Cache

end DelimiterScan
