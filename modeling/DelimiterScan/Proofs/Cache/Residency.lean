import DelimiterScan.Proofs.Cache.Requests

/-!
# How long a cache keeps things

The texts of a cache and the entries of a text leave in the order in which they came, and only
because of what comes behind them: hits, errors and further entries of a text change no one's turn.
`Fifo` is what both have in common. What is pushed to such a list stays until the list is emptied
or as many elements as its bound have followed (`Fifo.stays_iff`), so a text stays for as many
insertions, and an entry for as many results of its text (`residency`).
-/

namespace DelimiterScan

namespace Cache

variable {c : Cache} {q : Request} {x : String} {e : CacheEntry} {op : Op} {ops : List Op}

/-! ## Along operations -/

def storesFor (x : String) (c : Cache) : Op → Bool
  | .scan q => q.input = x && c.stores q
  | .clear => false

/-- Whether the operation keeps a result for a text that the cache does not have. -/
def inserts (c : Cache) : Op → Bool
  | .scan q => !c.contains q.input && c.stores q
  | .clear => false

def clears (_ : Cache) : Op → Bool
  | .scan _ => false
  | .clear => true

/-- How many of the operations are of a kind, each one in the cache that it finds. -/
def tally (kind : Cache → Op → Bool) : Cache → List Op → Nat
  | _, [] => 0
  | c, op :: ops => (kind c op).toNat + tally kind (c.apply op) ops

/-- It holds of the cache and of every later one that the operations lead to. -/
def Throughout (P : Cache → Prop) (c : Cache) (ops : List Op) : Prop :=
  ∀ done, done <+: ops → P (done.foldl apply c)

theorem throughout_nil {P : Cache → Prop} : Throughout P c [] ↔ P c := by
  constructor
  · intro h
    exact h [] List.prefix_rfl
  · intro h done hdone
    rw [List.prefix_nil.mp hdone]
    exact h

theorem throughout_cons {P : Cache → Prop} :
    Throughout P c (op :: ops) ↔ P c ∧ Throughout P (c.apply op) ops := by
  constructor
  · intro h
    refine ⟨h [] List.nil_prefix, fun done hdone => ?_⟩
    exact h (op :: done) (List.cons_prefix_cons.mpr ⟨rfl, hdone⟩)
  · rintro ⟨hnow, hlater⟩ done hdone
    rcases List.prefix_cons_iff.mp hdone with rfl | ⟨rest, rfl, hrest⟩
    · exact hnow
    · exact hlater rest hrest

theorem throughout_congr {P Q : Cache → Prop} (h : ∀ {c : Cache}, c.WellFormed → (P c ↔ Q c))
    (hc : c.WellFormed) : Throughout P c ops ↔ Throughout Q c ops := by
  induction ops generalizing c with
  | nil => rw [throughout_nil, throughout_nil, h hc]
  | cons op ops ih => rw [throughout_cons, throughout_cons, h hc, ih (hc.apply op)]

theorem Throughout.now {P : Cache → Prop} (h : Throughout P c ops) : P c :=
  h [] List.nil_prefix

theorem not_throughout {P : Cache → Prop} (h : ¬ P c) : ¬ Throughout P c ops :=
  fun hall => h hall.now

theorem tally_clears_eq_zero : tally clears c ops = 0 ↔ .clear ∉ ops := by
  induction ops generalizing c with
  | nil => simp [tally]
  | cons op ops ih =>
    rw [tally, Nat.add_eq_zero_iff, ih]
    cases op <;> simp [clears]

theorem tally_loses_eq_zero (hc : c.contains x = true) :
    tally (fun c op => !(c.apply op).contains x) c ops = 0 ↔ Throughout (·.contains x) c ops := by
  induction ops generalizing c with
  | nil => simp [tally, throughout_nil, hc]
  | cons op ops ih =>
    rw [tally, Nat.add_eq_zero_iff, throughout_cons, and_iff_right hc]
    cases hnext : (c.apply op).contains x with
    | true => simp [ih hnext]
    | false =>
      have hgone : ¬ Throughout (·.contains x) (c.apply op) ops :=
        not_throughout (by simp [hnext])
      simp [hgone]

/-! ## First in, first out -/

section PushBounded

variable {α : Type} {bound : Nat} {older newer : List α} {x y : α}

/-- With room behind it an element survives a push, and one more is behind it. -/
theorem exists_pushBounded_eq (h : newer.length + 1 < bound) :
    ∃ older', pushBounded bound (older ++ x :: newer) y = older' ++ x :: (newer ++ [y]) := by
  unfold pushBounded
  split
  · next hfull =>
    -- A full list has something in front of the element to lose.
    cases older with
    | nil =>
      rw [List.nil_append, List.length_cons] at hfull
      omega
    | cons oldest older => exact ⟨older, by simp⟩
  · exact ⟨older, by simp⟩

theorem not_mem_pushBounded (hlength : (older ++ x :: newer).length ≤ bound)
    (hnodup : (older ++ x :: newer).Nodup) (hy : y ∉ older ++ x :: newer)
    (h : bound ≤ newer.length + 1) : x ∉ pushBounded bound (older ++ x :: newer) y := by
  have holder : older = [] := by
    rw [List.length_append, List.length_cons] at hlength
    exact List.eq_nil_of_length_eq_zero (by omega)
  subst holder
  rw [List.nil_append] at hnodup hy ⊢
  rw [pushBounded, if_pos (by simpa using h), List.tail_cons, List.mem_append, List.mem_singleton]
  rintro (hmem | rfl)
  · exact (List.nodup_cons.mp hnodup).1 hmem
  · exact hy (List.mem_cons_self ..)

end PushBounded

/-- A list that a cache has, with a bound that does not change. An operation empties it, pushes one
new element to it or leaves it as it is. -/
structure Fifo (α : Type) where
  content : Cache → List α
  bound : Cache → Nat
  empties : Cache → Op → Bool
  pushes : Cache → Op → Bool
  nodup : ∀ {c}, c.WellFormed → (content c).Nodup
  length_le : ∀ {c}, c.WellFormed → (content c).length ≤ bound c
  bound_apply : ∀ {c} (op), c.WellFormed → bound (c.apply op) = bound c
  emptied : ∀ {c op}, c.WellFormed → empties c op = true → content (c.apply op) = []
  pushed : ∀ {c op}, c.WellFormed → empties c op = false → pushes c op = true →
    ∃ y ∉ content c, content (c.apply op) = pushBounded (bound c) (content c) y
  kept : ∀ {c op}, c.WellFormed → empties c op = false → pushes c op = false →
    content (c.apply op) = content c

/-- An element stays as long as the list is not emptied and fewer elements than its bound are behind
it, those that are already there and those that the operations push. -/
theorem Fifo.stays_iff {α : Type} (f : Fifo α) (hc : c.WellFormed) {older newer : List α} {z : α}
    (hz : f.content c = older ++ z :: newer) :
    Throughout (z ∈ f.content ·) c ops ↔
      tally f.empties c ops = 0 ∧ newer.length + tally f.pushes c ops < f.bound c := by
  have hmem : z ∈ f.content c := by simp [hz]
  -- Each push moves one element to `newer`, so its length and the pushes to come make the count.
  induction ops generalizing c older newer with
  | nil =>
    have hlength := f.length_le hc
    rw [hz, List.length_append, List.length_cons] at hlength
    rw [throughout_nil]
    simp only [tally, hmem, true_iff, true_and]
    omega
  | cons op ops ih =>
    rw [throughout_cons, and_iff_right hmem, tally, tally, ← f.bound_apply op hc]
    cases hempties : f.empties c op with
    | true =>
      have hgone : ¬ Throughout (z ∈ f.content ·) (c.apply op) ops :=
        not_throughout (by simp [f.emptied hc hempties])
      simp [hgone]
    | false =>
      cases hpushes : f.pushes c op with
      | false =>
        have hsame := f.kept hc hempties hpushes
        simpa using ih (hc.apply op) (hsame.trans hz) (hsame ▸ hmem)
      | true =>
        obtain ⟨y, hy, hpush⟩ := f.pushed hc hempties hpushes
        rw [hz] at hpush hy
        by_cases hroom : newer.length + 1 < f.bound c
        · obtain ⟨older', heq⟩ : ∃ older', pushBounded (f.bound c) (older ++ z :: newer) y =
              older' ++ z :: (newer ++ [y]) := exists_pushBounded_eq hroom
          have hnext := hpush.trans heq
          have hstill : z ∈ f.content (c.apply op) := by simp [hnext]
          refine (ih (hc.apply op) hnext hstill).trans ?_
          rw [List.length_append, List.length_singleton]
          simp [Nat.add_assoc]
        · -- The list is full and `z` is the oldest element, so it is the one that goes.
          have hlength := f.length_le hc
          have hnodup := f.nodup hc
          rw [hz] at hlength hnodup
          have hgone : ¬ Throughout (z ∈ f.content ·) (c.apply op) ops := by
            refine not_throughout ?_
            rw [hpush]
            exact not_mem_pushBounded hlength hnodup hy (by omega)
          rw [f.bound_apply op hc]
          simp only [hgone, Bool.toNat_true, false_iff]
          omega

/-! ## Texts and entries -/

def texts : Fifo String where
  content := order
  bound := maxInputs
  empties := clears
  pushes := inserts
  nodup hc := hc.nodup
  length_le hc := hc.length_le
  bound_apply op hc := maxInputs_apply hc op
  emptied {c op} _ h := by
    cases op with
    | scan q => cases h
    | clear => rfl
  pushed {c op} hc hclears h := by
    cases op with
    | scan q =>
      obtain ⟨hnew, hstores⟩ := Bool.and_eq_true_iff.mp h
      have hnew : c.contains q.input = false := by simpa using hnew
      obtain ⟨r, -, -, -, hadds⟩ := hc.adds_of_stores hstores
      refine ⟨q.input, hc.not_mem_order hnew, ?_⟩
      exact hadds.order.trans (by rw [hnew]; rfl)
    | clear => cases h
  kept {c op} hc hclears h := by
    cases op with
    | scan q =>
      cases hstores : c.stores q with
      | false => exact congrArg order (ask_of_not_stores hstores)
      | true =>
        obtain ⟨r, -, -, -, hadds⟩ := hc.adds_of_stores hstores
        have hold : c.contains q.input = true := by simpa [inserts, hstores] using h
        exact hadds.order.trans (if_pos hold)
    | clear => cases hclears

def entries (x : String) : Fifo CacheEntry where
  content c := c.entriesOf x
  bound _ := maxEntries
  empties c op := !(c.apply op).contains x
  pushes := storesFor x
  nodup hc := (hc.nodup_entriesOf x).of_map
  length_le hc := hc.length_entriesOf_le x
  bound_apply _ _ := rfl
  emptied {c op} hc h :=
    (hc.apply op).entriesOf_eq_nil ((hc.apply op).not_mem_order (by simpa using h))
  pushed {c op} hc _ h := by
    cases op with
    | scan q =>
      obtain ⟨hinput, hstores⟩ := Bool.and_eq_true_iff.mp h
      obtain rfl := of_decide_eq_true hinput
      obtain ⟨r, -, hmissed, -, hadds⟩ := hc.adds_of_stores hstores
      exact ⟨_, fun hmem => hmissed (List.mem_map_of_mem hmem), hadds.entries⟩
    | clear => cases h
  kept {c op} hc hheld h := by
    cases op with
    | scan q =>
      cases hstores : c.stores q with
      | false => exact congrArg (·.entriesOf x) (ask_of_not_stores hstores)
      | true =>
        obtain ⟨r, -, -, -, hadds⟩ := hc.adds_of_stores hstores
        have hother : x ≠ q.input := by
          rintro rfl
          simp [storesFor, hstores] at h
        have hmem : x ∈ (c.apply (.scan q)).order :=
          (hc.apply (.scan q)).contains_iff_mem_order.mp (by simpa using hheld)
        exact (hadds.others x hother).trans (if_pos hmem)
    | clear => cases hheld

/-- A text that comes into a cache stays until as many texts as it may have came in behind it. -/
theorem contains_stays_iff (hc : c.WellFormed) (h : inserts c (.scan q) = true) :
    Throughout (·.contains q.input) (c.ask q).2 ops ↔
      .clear ∉ ops ∧ tally inserts (c.ask q).2 ops < c.maxInputs := by
  obtain ⟨hnew, hstores⟩ := Bool.and_eq_true_iff.mp h
  obtain ⟨r, -, -, -, hadds⟩ := hc.adds_of_stores hstores
  have hnewest : texts.content (c.ask q).2 = _ ++ q.input :: [] :=
    hadds.order.trans (if_neg (by simpa using hnew))
  rw [throughout_congr (fun hc => hc.contains_iff_mem_order) (hc.ask q)]
  refine (texts.stays_iff (hc.ask q) hnewest).trans ?_
  rw [← hadds.maxInputs, ← tally_clears_eq_zero (c := (c.ask q).2), List.length_nil, Nat.zero_add]
  rfl

/-- An entry stays with its text until as many entries as a text may have came in behind it. -/
theorem entry_stays_iff {r : ScanResult} (hc : c.WellFormed) (h : c.stores q = true)
    (hfresh : q.fresh = .ok r) :
    Throughout (⟨q.keys, q.options.fingerprint, r⟩ ∈ ·.entriesOf q.input) (c.ask q).2 ops ↔
      Throughout (·.contains q.input) (c.ask q).2 ops ∧
        tally (storesFor q.input) (c.ask q).2 ops < maxEntries := by
  obtain ⟨r', hfresh', -, -, hadds⟩ := hc.adds_of_stores h
  obtain rfl : r = r' := Except.ok.inj (hfresh.symm.trans hfresh')
  have hnewest : (entries q.input).content (c.ask q).2 = _ ++ _ :: [] := hadds.entries
  have hheld : (c.ask q).2.contains q.input = true := by
    rw [(hc.ask q).contains_iff_mem_order]
    by_contra hgone
    have hentries := hadds.entries
    rw [(hc.ask q).entriesOf_eq_nil hgone] at hentries
    simp [pushBounded] at hentries
  refine ((entries q.input).stays_iff (hc.ask q) hnewest).trans ?_
  rw [← tally_loses_eq_zero hheld, List.length_nil, Nat.zero_add]
  rfl

/-- Residency is first in, first out. A text that a request brings into the cache stays as long as
it is not cleared and fewer texts came in than the cache may have. An entry that a request stores
stays as long as its text and fewer entries came in than a text may have. A request that an entry
serves brings in nothing. -/
theorem residency (maxInputs : Nat) (before later : List Op) (q : Request) :
    let c := after maxInputs before
    let c' := (c.ask q).2
    (inserts c (.scan q) = true →
      (Throughout (·.contains q.input) c' later ↔
        .clear ∉ later ∧ tally inserts c' later < max maxInputs 1)) ∧
    (∀ r, c.stores q = true → q.fresh = .ok r →
      (Throughout (⟨q.keys, q.options.fingerprint, r⟩ ∈ ·.entriesOf q.input) c' later ↔
        Throughout (·.contains q.input) c' later ∧
          tally (storesFor q.input) c' later < maxEntries)) ∧
    ∀ e ∈ c.entriesOf q.input, Serves e q → c' = c ∧
      (q.options.cache = true → (c.ask q).1 = .ok (e.result.echo q.delims q.options)) := by
  intro c c'
  have hwell : c.WellFormed := wellFormed_after maxInputs before
  refine ⟨fun hinserts => ?_, fun r hstores hfresh => entry_stays_iff hwell hstores hfresh, ?_⟩
  · rw [← maxInputs_after maxInputs before]
    exact contains_stays_iff hwell hinserts
  · intro e he hserves
    cases hcache : q.options.cache with
    | false =>
      refine ⟨congrArg Prod.snd (ask_of_not_cache hcache), ?_⟩
      intro hon
      cases hon
    | true =>
      have hask := ask_of_serves hwell (sourced_after maxInputs before) hcache he hserves
      exact ⟨congrArg Prod.snd hask, fun _ => congrArg Prod.fst hask⟩

def otherText : Request := ⟨"c", {}, [.literal "="]⟩

/-- In a cache for one text, a text and its entry outlast a hit and a failure, but not a text that
comes in behind them. -/
theorem residency_of_one :
    ∃ r, shortFirst.fresh = .ok r ∧
      let c := after 1 [.scan shortFirst]
      Throughout (·.contains "a==b") c [.scan longFirst, .scan unclosed] ∧
      ¬ Throughout (·.contains "a==b") c [.scan longFirst, .scan otherText] ∧
      Throughout (⟨shortFirst.keys, shortFirst.options.fingerprint, r⟩ ∈ ·.entriesOf "a==b") c
        [.scan longFirst, .scan unclosed] ∧
      (c.ask longFirst).2 = c := by
  obtain ⟨r, hfresh⟩ := exists_fresh_shortFirst
  have hinserts : inserts (after 1 []) (.scan shortFirst) = true := by decide +kernel
  have hstores : (after 1 []).stores shortFirst = true := by decide +kernel
  obtain ⟨htext, hentry, -⟩ := residency 1 [] [.scan longFirst, .scan unclosed] shortFirst
  have htextStays := (htext hinserts).mpr ⟨by simp, by decide +kernel⟩
  have hentryStays := (hentry r hstores hfresh).mpr ⟨htextStays, by decide +kernel⟩
  refine ⟨r, hfresh, htextStays, ?_, hentryStays, ?_⟩
  · intro hstays
    obtain ⟨htext, -, -⟩ := residency 1 [] [.scan longFirst, .scan otherText] shortFirst
    exact absurd ((htext hinserts).mp hstays).2 (by decide +kernel)
  · obtain ⟨-, -, hserved⟩ := residency 1 [.scan shortFirst] [] longFirst
    exact (hserved _ hentryStays.now (serves_longFirst r)).1

end Cache

end DelimiterScan
