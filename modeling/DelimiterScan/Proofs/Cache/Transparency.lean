import DelimiterScan.Proofs.Cache.History

/-!
# What a cache may answer

A cache does not ask for the order of the delimiters, but a scan tries them in order. So the
answer to a request is the fresh one, or the fresh one of an earlier request that named the same
delimiters in another order (`ask_eq_fresh_or_reordered`).
-/

namespace DelimiterScan

namespace Cache

/-- The request `e` fills an entry for `q`, but tries its delimiters in another order. -/
structure Reordered (e q : Request) : Prop where
  input : e.input = q.input
  keys : e.keys = q.keys
  fingerprint : e.options.fingerprint = q.options.fingerprint
  cache : e.options.cache = true
  order : Delimiter.keyOrder e.delims ≠ Delimiter.keyOrder q.delims

/-- A request where the shorter delimiter always wins. -/
def shortFirst : Request := ⟨"a==b", {}, [.literal "=", .literal "=="]⟩

def longFirst : Request := ⟨"a==b", {}, [.literal "==", .literal "="]⟩

theorem consistent_literals :
    Delimiter.Consistent
      ((requests [.scan shortFirst] ++ [longFirst]).flatMap Request.allDelimiters) := by
  intro p q hp
  simp [requests, Request.allDelimiters, shortFirst, longFirst] at hp

/-- A request is answered as by a fresh scan, unless an earlier one has tried the same delimiters
in another order. Then that one may answer it, with the delimiters and options of this one. -/
theorem ask_eq_fresh_or_reordered (maxInputs : Nat) (ops : List Op) (q : Request)
    (hcons : Delimiter.Consistent ((requests ops ++ [q]).flatMap Request.allDelimiters)) :
    ((after maxInputs ops).ask q).1 = q.fresh ∨
      q.options.cache = true ∧ ∃ e ∈ requests ops, Reordered e q ∧
        ∃ r, e.fresh = .ok r ∧
          ((after maxInputs ops).ask q).1 = .ok (r.echo q.delims q.options) := by
  have hanswer := answer_ask (after maxInputs ops) q
  revert hanswer
  generalize (after maxInputs ops).ask q = answer
  rintro (_ | @⟨_, hcache, hlookup⟩ | ⟨-, -, hfresh⟩ | ⟨-, -, hfresh⟩)
  · exact .inl rfl
  · obtain ⟨record, hrecord, hinput, entry, hentry, hkeys, hprint, rfl⟩ :=
      exists_of_lookup hlookup
    obtain ⟨e, he, hsource, hholds⟩ := sourced_after maxInputs ops record hrecord entry hentry
    have hprint' : q.options.fingerprint = e.options.fingerprint :=
      hprint.symm.trans hholds.fingerprint
    by_cases horder : Delimiter.keyOrder q.delims = Delimiter.keyOrder e.delims
    · left
      -- In the same order both requests scan alike, so the entry is what a fresh scan gives.
      have hsub : q.delims ++ q.options.stops ++ (e.delims ++ e.options.stops) ⊆
          (requests ops ++ [q]).flatMap Request.allDelimiters := by
        intro d hd
        rcases List.mem_append.mp hd with hd | hd
        · exact List.mem_flatMap.mpr ⟨q, by simp, hd⟩
        · exact List.mem_flatMap.mpr ⟨e, by simp [he], hd⟩
      have hscan := scan_eq_echo q.input (hcons.mono hsub) horder hprint'
      have hfresh : DelimiterScan.scan q.input e.options e.delims = .ok entry.result := by
        rw [← hinput, ← hsource]
        exact hholds.result
      rw [Request.fresh, hscan, hfresh]
      rfl
    · right
      refine ⟨hcache, e, he, ⟨hsource.trans hinput, ?_, hprint'.symm, hholds.cache, ?_⟩,
        entry.result, hholds.result, rfl⟩
      · exact hholds.keys.symm.trans hkeys
      · exact fun h => horder h.symm
  · exact .inl hfresh.symm
  · exact .inl hfresh.symm

theorem ask_longFirst :
    ((after 1 [.scan shortFirst]).ask longFirst).1 = longFirst.fresh ∨
      longFirst.options.cache = true ∧ ∃ e ∈ requests [.scan shortFirst], Reordered e longFirst ∧
        ∃ r, e.fresh = .ok r ∧ ((after 1 [.scan shortFirst]).ask longFirst).1 =
          .ok (r.echo longFirst.delims longFirst.options) :=
  ask_eq_fresh_or_reordered 1 [.scan shortFirst] longFirst consistent_literals

/-- Without the exception it fails: the second request is answered with the tokens `a`, nothing
and `b` of the first one, where a fresh scan gives `a` and `b`. -/
theorem ask_ne_fresh :
    ¬ ∀ (maxInputs : Nat) (ops : List Op) (q : Request),
      Delimiter.Consistent ((requests ops ++ [q]).flatMap Request.allDelimiters) →
        ((after maxInputs ops).ask q).1 = q.fresh := by
  intro h
  have hfresh := h 1 [.scan shortFirst] longFirst consistent_literals
  have hstored : (((after 1 [.scan shortFirst]).ask longFirst).1.map ScanResult.texts).toOption =
      some ["a", "", "b"] := by
    decide +kernel
  have hown : (longFirst.fresh.map ScanResult.texts).toOption = some ["a", "b"] := by
    decide +kernel
  rw [hfresh, hown] at hstored
  exact absurd hstored (by decide)

end Cache

end DelimiterScan
