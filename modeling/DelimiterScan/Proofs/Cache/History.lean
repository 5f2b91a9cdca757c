import DelimiterScan.Proofs.Alike
import Mathlib.Data.List.Induction

/-!
# Histories of a cache

A cache is used by requests and cleared now and then. `Answer` says what one request comes to:
it passes the cache by, hits an entry, fails, or stores its result. By induction over the history,
everything in a cache was put there by a request since the last clearing (`sourced_after`).
-/

namespace DelimiterScan

namespace Cache

structure Request where
  input : String
  options : Options
  delims : List Delimiter

namespace Request

def fresh (q : Request) : Except ScanError ScanResult :=
  DelimiterScan.scan q.input q.options q.delims

def keys (q : Request) : KeySet := KeySet.ofDelimiters q.delims

def allDelimiters (q : Request) : List Delimiter := q.delims ++ q.options.stops

end Request

inductive Op where
  | scan (q : Request)
  | clear

def ask (c : Cache) (q : Request) : Except ScanError ScanResult × Cache :=
  c.scan q.input q.options q.delims

def apply (c : Cache) : Op → Cache
  | .scan q => (c.ask q).2
  | .clear => c.clear

def after (maxInputs : Nat) (ops : List Op) : Cache := ops.foldl apply (ofMaxInputs maxInputs)

def requests (ops : List Op) : List Request :=
  ops.foldl (fun qs op => match op with | .scan q => qs ++ [q] | .clear => []) []

variable {c : Cache} {q : Request} {n : Nat} {ops : List Op}

theorem after_concat (n : Nat) (ops : List Op) (op : Op) :
    after n (ops ++ [op]) = (after n ops).apply op := by
  unfold after
  rw [List.foldl_append]
  rfl

theorem requests_scan (ops : List Op) (q : Request) :
    requests (ops ++ [.scan q]) = requests ops ++ [q] := by
  unfold requests
  rw [List.foldl_append]
  rfl

/-! ## One request -/

/-- What a request comes to. -/
inductive Answer (c : Cache) (q : Request) : Except ScanError ScanResult × Cache → Prop
  | passed (hcache : q.options.cache = false) : Answer c q (q.fresh, c)
  | hit {r : ScanResult} (hcache : q.options.cache = true)
      (hlookup : c.lookup q.input q.keys q.options.fingerprint = some r) :
      Answer c q (.ok (r.echo q.delims q.options), c)
  | failed {e : ScanError} (hcache : q.options.cache = true)
      (hmiss : c.lookup q.input q.keys q.options.fingerprint = none) (hfresh : q.fresh = .error e) :
      Answer c q (.error e, c)
  | stored {r : ScanResult} (hcache : q.options.cache = true)
      (hmiss : c.lookup q.input q.keys q.options.fingerprint = none) (hfresh : q.fresh = .ok r) :
      Answer c q (.ok r, c.store q.input ⟨q.keys, q.options.fingerprint, r⟩)

theorem answer_ask (c : Cache) (q : Request) : Answer c q (c.ask q) := by
  unfold ask scan
  by_cases hcache : q.options.cache = true
  · rw [if_neg (by simp [hcache])]
    dsimp only
    split
    · next r hlookup => exact .hit hcache hlookup
    · next hmiss =>
      split
      · next e hfresh => exact .failed hcache hmiss hfresh
      · next r hfresh => exact .stored hcache hmiss hfresh
  · rw [if_pos (by simpa using hcache)]
    exact .passed (by simpa using hcache)

/-! ## Where entries come from -/

theorem exists_record_of_mem {input : String} {e : CacheEntry} (h : e ∈ c.entriesOf input) :
    ∃ record ∈ c.records, record.input = input ∧ e ∈ record.entries := by
  unfold entriesOf at h
  split at h
  · cases h
  · next record hrecord =>
    have hinput : record.input = input := by simpa using List.find?_some hrecord
    exact ⟨record, List.mem_of_find?_eq_some hrecord, hinput, h⟩

theorem exists_of_lookup {input : String} {keys : KeySet} {fingerprint : Options.Fingerprint}
    {r : ScanResult} (h : c.lookup input keys fingerprint = some r) :
    ∃ record ∈ c.records, record.input = input ∧ ∃ e ∈ record.entries,
      e.keys = keys ∧ e.fingerprint = fingerprint ∧ e.result = r := by
  obtain ⟨e, hfind, rfl⟩ := Option.map_eq_some_iff.mp h
  have hanswers : e.keys = keys ∧ e.fingerprint = fingerprint := by
    simpa [CacheEntry.answers] using List.find?_some hfind
  obtain ⟨record, hrecord, hinput, hmem⟩ := exists_record_of_mem (List.mem_of_find?_eq_some hfind)
  exact ⟨record, hrecord, hinput, e, hmem, hanswers.1, hanswers.2, rfl⟩

theorem mem_pushBounded {α : Type} {bound : Nat} {xs : List α} {x y : α}
    (h : x ∈ pushBounded bound xs y) : x ∈ xs ∨ x = y := by
  unfold pushBounded at h
  rcases List.mem_append.mp h with hx | hx
  · split at hx
    · exact .inl (List.mem_of_mem_tail hx)
    · exact .inl hx
  · exact .inr (List.mem_singleton.mp hx)

@[simp]
theorem input_addEntry (record : CacheRecord) (e : CacheEntry) :
    (addEntry record e).input = record.input := by
  unfold addEntry
  split <;> rfl

theorem mem_addEntry {record : CacheRecord} {e e' : CacheEntry}
    (h : e' ∈ (addEntry record e).entries) : e' ∈ record.entries ∨ e' = e := by
  unfold addEntry at h
  split at h
  · exact .inl h
  · exact mem_pushBounded h

theorem mem_of_mem_evict {bound : Nat} {order : List String} {records : List CacheRecord}
    {record : CacheRecord} (h : record ∈ (evict bound order records).2) : record ∈ records := by
  induction order generalizing records with
  | nil => exact h
  | cons oldest order ih =>
    unfold evict at h
    split at h
    · exact List.mem_of_mem_filter (ih h)
    · exact h

/-- Storing an entry puts nothing else into the cache. -/
theorem mem_store {input : String} {e e' : CacheEntry} {record : CacheRecord}
    (hrecord : record ∈ (c.store input e).records) (he' : e' ∈ record.entries) :
    (record.input = input ∧ e' = e) ∨
      ∃ old ∈ c.records, old.input = record.input ∧ e' ∈ old.entries := by
  unfold store at hrecord
  -- A text that has a record gets the entry there, another one a record of its own.
  split at hrecord
  · obtain ⟨old, hold, rfl⟩ := List.mem_map.mp hrecord
    by_cases hinput : old.input = input
    · rw [if_pos hinput] at he' ⊢
      rw [input_addEntry]
      rcases mem_addEntry he' with he' | rfl
      · exact .inr ⟨old, hold, rfl, he'⟩
      · exact .inl ⟨hinput, rfl⟩
    · rw [if_neg hinput] at he' ⊢
      exact .inr ⟨old, hold, rfl, he'⟩
  · rcases List.mem_append.mp hrecord with hrecord | hrecord
    · exact .inr ⟨record, mem_of_mem_evict hrecord, rfl, he'⟩
    · obtain rfl := List.mem_singleton.mp hrecord
      exact .inl ⟨rfl, List.mem_singleton.mp he'⟩

/-- The entry holds the fresh result of the request. -/
structure Holds (e : CacheEntry) (q : Request) : Prop where
  cache : q.options.cache = true
  keys : e.keys = q.keys
  fingerprint : e.fingerprint = q.options.fingerprint
  result : q.fresh = .ok e.result

/-- Every entry holds the result of one of the requests, for its text. -/
def Sourced (c : Cache) (qs : List Request) : Prop :=
  ∀ record ∈ c.records, ∀ e ∈ record.entries, ∃ q ∈ qs, q.input = record.input ∧ Holds e q

theorem Sourced.mono {qs qs' : List Request} (h : c.Sourced qs) (hsub : qs ⊆ qs') :
    c.Sourced qs' := by
  intro record hrecord e he
  obtain ⟨q, hq, hinput, hholds⟩ := h record hrecord e he
  exact ⟨q, hsub hq, hinput, hholds⟩

theorem Sourced.ask {qs : List Request} (h : c.Sourced qs) (q : Request) :
    (c.ask q).2.Sourced (qs ++ [q]) := by
  have hold : c.Sourced (qs ++ [q]) := h.mono (List.subset_append_left _ _)
  have hanswer := answer_ask c q
  revert hanswer
  generalize c.ask q = answer
  rintro (_ | _ | _ | ⟨hcache, -, hfresh⟩)
  · exact hold
  · exact hold
  · exact hold
  · intro record hrecord e he
    rcases mem_store hrecord he with ⟨hinput, rfl⟩ | ⟨old, hmem, hinput, hin⟩
    · exact ⟨q, by simp, hinput.symm, hcache, rfl, rfl, hfresh⟩
    · obtain ⟨q', hq', hinput', hholds⟩ := hold old hmem e hin
      exact ⟨q', hq', hinput'.trans hinput, hholds⟩

/-- Everything in a cache was put there by a request since the last clearing. -/
theorem sourced_after (n : Nat) (ops : List Op) : (after n ops).Sourced (requests ops) := by
  induction ops using List.reverseRecOn with
  | nil => exact fun record hrecord => nomatch hrecord
  | append_singleton ops op ih =>
    rw [after_concat]
    cases op with
    | scan q =>
      rw [requests_scan]
      exact ih.ask q
    | clear => exact fun record hrecord => nomatch hrecord

end Cache

end DelimiterScan
