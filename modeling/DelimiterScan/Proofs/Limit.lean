import DelimiterScan.Proofs.Cuts
import DelimiterScan.Proofs.Nesting
import DelimiterScan.Proofs.Tiling

/-!
# Scans with a limit

A scan with a limit takes the same steps as one without, until there are as many cuts as it allows
(`step_limited`). From there on it is frozen, and nothing but the text of its last token changes
(`framed_of_leads`), while the other scan goes on and only adds to what is there
(`grows_of_leads`). So a limit leaves a result as it is or freezes it at a cut (`scan_limited`).
-/

namespace DelimiterScan

variable {plan : Plan} {options : Options} {delims : List Delimiter} {input : String}
  {s t u : State} {cur cur' : Cursor} {p q : State × Cursor} {n : Nat}

/-! ## What a scan adds to -/

/-- The finished tokens, cuts and matches of `s` come first in `t`, which has been as deep. -/
structure State.Grows (s t : State) : Prop where
  finished : s.buffer.finished.toList <+: t.buffer.finished.toList
  cuts : s.cuts.toList <+: t.cuts.toList
  cutsAt : s.cutsAt.toList <+: t.cutsAt.toList
  maxDepth : s.maxDepth ≤ t.maxDepth

theorem State.Grows.refl (s : State) : s.Grows s :=
  ⟨List.prefix_rfl, List.prefix_rfl, List.prefix_rfl, Nat.le_refl _⟩

theorem State.Grows.trans (h : s.Grows t) (h' : t.Grows u) : s.Grows u where
  finished := h.finished.trans h'.finished
  cuts := h.cuts.trans h'.cuts
  cutsAt := h.cutsAt.trans h'.cutsAt
  maxDepth := h.maxDepth.trans h'.maxDepth

theorem prefix_push {α : Type} (xs : Array α) (x : α) : xs.toList <+: (xs.push x).toList := by
  rw [Array.toList_push]
  exact List.prefix_append _ _

theorem TokenBuffer.finished_prefix_tokens (b : TokenBuffer) :
    b.finished.toList <+: b.tokens.toList := by
  rw [tokens]
  cases b.current with
  | none => exact List.prefix_rfl
  | some token => exact prefix_push _ _

namespace Plan

/-- A step takes nothing away. -/
theorem grows_step (plan : Plan) (s : State) (cur : Cursor) :
    s.Grows (plan.step s cur).state := by
  have hdepth := (plan.nests_step s cur).maxDepth_le
  cases plan.records_step s cur with
  | kept hfinished hcuts hcutsAt =>
    exact ⟨hfinished ▸ List.prefix_rfl, hcuts ▸ List.prefix_rfl, hcutsAt ▸ List.prefix_rfl, hdepth⟩
  | edge _ _ hfinished hcuts hcutsAt =>
    obtain ⟨token, hfinished⟩ := hfinished
    exact ⟨hfinished ▸ prefix_push _ _, hcuts ▸ prefix_push _ _, hcutsAt ▸ List.prefix_rfl, hdepth⟩
  | delimiter _ _ _ hfinished hcuts hcutsAt =>
    obtain ⟨token, hfinished⟩ := hfinished
    exact ⟨hfinished ▸ prefix_push _ _, hcuts ▸ prefix_push _ _, hcutsAt ▸ prefix_push _ _, hdepth⟩

theorem grows_of_leads (h : plan.Leads p q) : p.1.Grows q.1 := by
  induction h with
  | refl => exact .refl _
  | @tail q r _ hstep ih =>
    have hgrows := plan.grows_step q.1 q.2
    rw [hstep.state_step] at hgrows
    exact ih.trans hgrows

/-! ## Once no cut is left -/

theorem framed_of_leads (hlimit : plan.options.limit = some p.1.cuts.size)
    (h : plan.Leads p q) : p.1.Framed q.1 := by
  induction h with
  | refl => exact .refl _
  | @tail q r _ hstep ih =>
    rw [← ih.cuts] at hlimit
    have hframed : q.1.Framed (plan.step q.1 q.2).state := framed_step (.inr (.inr hlimit))
    rw [hstep.state_step] at hframed
    exact ih.trans hframed

/-- A scan that comes by a state with no cut left ends with the blocks and cuts of that state. -/
theorem framed_finalState (h : plan.Reaches input s cur)
    (hlimit : plan.options.limit = some s.cuts.size) : s.Framed (plan.finalState input) := by
  obtain ⟨⟨t, cur'⟩, u, hleads, hend⟩ := plan.exists_finished (s, cur)
  have hframed : s.Framed t := framed_of_leads hlimit hleads
  have hlast : t.Framed (plan.step t cur').state :=
    framed_step (.inr (.inr (hframed.cuts ▸ hlimit)))
  rw [hend] at hlast
  rw [finalState_eq (h.trans hleads) hend]
  have hensured : u.Framed u.ensureToken := ⟨rfl, rfl, rfl, rfl, rfl, rfl⟩
  exact (hframed.trans hlast).trans hensured

/-! ## Up to the limit -/

def limited (plan : Plan) (n : Nat) : Plan :=
  { plan with options := { plan.options with limit := some n } }

theorem make_limited (h : Plan.make options delims = .ok plan) (n : Nat) :
    Plan.make { options with limit := some n } delims = .ok (plan.limited n) := by
  obtain ⟨rfl, hdelims, hstops⟩ := make_eq_ok_iff.mp h
  exact make_eq_ok_iff.mpr ⟨rfl, hdelims, hstops⟩

section Limited

variable (hlimit : plan.options.limit = none)

include hlimit

theorem proceed_limited (hcuts : s.cuts.size ≠ n) (quote : Boundary String)
    (comment : Boundary Block) (c : String) :
    (plan.limited n).proceed s cur quote comment c = plan.proceed s cur quote comment c := by
  have hleft : (plan.limited n).options.limit ≠ some s.cuts.size :=
    fun h => hcuts (Option.some.inj h).symm
  have hfree : plan.options.limit ≠ some s.cuts.size := by simp [hlimit]
  unfold proceed
  rw [if_neg hleft, if_neg hfree]
  rfl

/-- Only a number of cuts that is the limit makes a difference. -/
theorem step_limited (hcuts : s.cuts.size ≠ n) (cur : Cursor) :
    (plan.limited n).step s cur = plan.step s cur := by
  cases hrest : cur.rest with
  | nil => rw [step_of_rest_nil hrest, step_of_rest_nil hrest]
  | cons c cs =>
    rw [step_eq hrest, step_eq hrest]
    refine proceed_limited hlimit ?_ _ _ _
    have hkept : ∀ (b : Boundary String) (k : Boundary Block),
        ((s.atQuote b).atComment k).cuts = s.cuts := by
      intro b k
      cases b <;> cases k <;> rfl
    rwa [hkept]

end Limited

theorem size_cuts_of_advanced (hstep : plan.step s cur = .advanced t cur') :
    t.cuts.size ≤ s.cuts.size + 1 := by
  cases records_of_advanced hstep with
  | kept _ hcuts => exact hcuts ▸ Nat.le_succ _
  | edge _ _ _ hcuts | delimiter _ _ _ _ hcuts => exact hcuts ▸ (Array.size_push _).le

/-- Where no cut is added, no token is finished. -/
theorem finished_of_cuts_eq (hstep : plan.step s cur = .advanced t cur')
    (hcuts : t.cuts = s.cuts) : t.buffer.finished = s.buffer.finished := by
  cases records_of_advanced hstep with
  | kept hfinished => exact hfinished
  | edge _ _ _ hpush | delimiter _ _ _ _ hpush =>
    exact absurd (hpush.symm.trans hcuts) Array.push_ne_self

/-- With delimiters, a cut is made at a match, where nothing is open. -/
theorem exists_match_of_cut (hstep : plan.step s cur = .advanced t cur')
    (hdelims : plan.delims ≠ []) (hcuts : t.cuts ≠ s.cuts) :
    s.Idle ∧ s.nesting = [] ∧ ∃ c cs matched, cur.rest = c :: cs ∧
      Delimiter.firstMatch? plan.delims cur s.ensureToken.buffer plan.options.caseInsensitive =
        some matched ∧
      t = plan.cutState s cur matched (matchWidth matched c.toString) ∧
      cur' = cur.advance (matchWidth matched c.toString) := by
  obtain ⟨c, cs, hrest, hreaction⟩ := exists_reaction hstep
  generalize ho : Outcome.advanced t cur' = o at hreaction
  cases hreaction with
  | matched hlooks _ _ hnesting _ hmatch =>
    cases ho
    exact ⟨hlooks.toIdle, hnesting, c, cs, _, hrest, hmatch, rfl, rfl⟩
  | commentBegins | commentGoesOn | commentEnds =>
    have hstate := congrArg Outcome.state ho
    subst hstate
    refine absurd (State.Framed.inComment ?_ _ _).cuts hcuts
    exact ⟨rfl, rfl, rfl, rfl, rfl, rfl⟩
  | quoteBegins | quoteGoesOn | quoteEnds | limited | unmatched =>
    cases ho
    exact absurd rfl hcuts
  | stopped => cases ho
  | edge _ _ hnil => exact absurd hnil hdelims
  | nested =>
    cases ho
    refine absurd ?_ hcuts
    cases plan.blockAt s cur <;> rfl

theorem nesting_of_cut (hstep : plan.step s cur = .advanced t cur') (hdelims : plan.delims ≠ [])
    (hcuts : t.cuts ≠ s.cuts) : t.nesting = [] := by
  obtain ⟨-, hnesting, c, cs, matched, -, -, rfl, -⟩ := exists_match_of_cut hstep hdelims hcuts
  exact (State.sameOpen_cutState plan s cur _ _).nesting.trans hnesting

/-- The scans with and without a limit of `n` both come by `t` at `cur`, where no cut is left. -/
structure Freezes (plan : Plan) (input : String) (n : Nat) (t : State) (cur : Cursor) : Prop where
  size_cuts : t.cuts.size = n
  nesting : plan.delims ≠ [] → t.nesting = []
  free : plan.Reaches input t cur
  limited : (plan.limited n).Reaches input t cur

/-- The scan without a limit has cuts left, and so far the limit has made no difference; or it has
come by the place where the limit freezes the other one. -/
theorem reaches_limited_or_freezes (hlimit : plan.options.limit = none) (n : Nat)
    (h : plan.Reaches input s cur) :
    (s.cuts.size < n ∧ (plan.limited n).Reaches input s cur) ∨
      ∃ t cur', plan.Freezes input n t cur' ∧ plan.Leads (t, cur') (s, cur) := by
  refine h.induct (motive := fun s cur =>
    (s.cuts.size < n ∧ (plan.limited n).Reaches input s cur) ∨
      ∃ t cur', plan.Freezes input n t cur' ∧ plan.Leads (t, cur') (s, cur)) ?_ ?_
  · rcases Nat.eq_zero_or_pos n with rfl | hpos
    · exact .inr ⟨{}, .ofText input, ⟨rfl, fun _ => rfl, .start, .start⟩, .refl⟩
    · exact .inl ⟨hpos, .start⟩
  · rintro s s' cur cur' hreach (⟨hlt, hlimited⟩ | ⟨t, curT, hfreezes, hleads⟩) hstep
    · have hlimited' : (plan.limited n).Reaches input s' cur' :=
        hlimited.step ((step_limited hlimit hlt.ne cur).trans hstep)
      by_cases hn : s'.cuts.size < n
      · exact .inl ⟨hn, hlimited'⟩
      · have hsize := size_cuts_of_advanced hstep
        have hcuts : s'.cuts ≠ s.cuts := fun hsame => hn (hsame ▸ hlt)
        refine .inr ⟨s', cur', ⟨by omega, fun hdelims => ?_, hreach.step hstep, hlimited'⟩, .refl⟩
        exact nesting_of_cut hstep hdelims hcuts
    · exact .inr ⟨t, curT, hfreezes, hleads.snoc hstep⟩

/-- A limit makes no difference to the final state, or both scans come by a state with as many cuts
as it allows. Then one goes on from there, and the other one is frozen. -/
theorem finalState_limited (hlimit : plan.options.limit = none) (input : String) (n : Nat) :
    ((plan.finalState input).cuts.size < n ∧
        (plan.limited n).finalState input = plan.finalState input) ∨
      ∃ t cur, plan.Freezes input n t cur ∧ t.Grows (plan.finalState input) ∧
        t.Framed ((plan.limited n).finalState input) := by
  obtain ⟨s, cur, s', hreach, hend, hfinal⟩ := plan.exists_reaches_finished input
  rcases reaches_limited_or_freezes hlimit n hreach with
    ⟨hlt, hlimited⟩ | ⟨t, curT, hfreezes, hleads⟩
  · left
    have hend' : (plan.limited n).step s cur = .finished s' :=
      (step_limited hlimit hlt.ne cur).trans hend
    rw [finalState_eq hlimited hend', hfinal]
    refine ⟨?_, rfl⟩
    show s'.cuts.size < n
    rwa [(cuts_of_finished hend).1]
  · right
    have hlast := plan.grows_step s cur
    rw [hend] at hlast
    have hensured : s'.Grows s'.ensureToken :=
      ⟨List.prefix_rfl, List.prefix_rfl, List.prefix_rfl, Nat.le_refl _⟩
    refine ⟨t, curT, hfreezes, ?_, ?_⟩
    · rw [hfinal]
      exact ((grows_of_leads hleads).trans hlast).trans hensured
    · exact framed_finalState hfreezes.limited (congrArg some hfreezes.size_cuts.symm)

end Plan

/-! ## Results -/

/-- The result `r'` is `r` as far as its first `n` cuts, and one token behind them. -/
structure ScanResult.Frozen (n : Nat) (r r' : ScanResult) : Prop where
  delims : r'.delims = r.delims
  options : r'.options = { r.options with limit := some n }
  cuts : r'.cuts.toList = r.cuts.toList.take n
  cutsAt : r'.cutsAt.toList = r.cutsAt.toList.take n
  tokens : r'.tokens.toList.take n = r.tokens.toList.take n
  size_tokens : r'.tokens.size = n + 1
  stop : r'.stop = none
  maxDepth : r'.maxDepth ≤ r.maxDepth

/-- What a limit of `n` makes of the result `r`. -/
inductive ScanResult.Limited (n : Nat) (r r' : ScanResult) : Prop
  | same (few : r.cuts.size < n)
      (eq : r' = { r with options := { r.options with limit := some n } })
  | frozen (many : n ≤ r.cuts.size) (frozen : ScanResult.Frozen n r r')

namespace Plan

theorem cutsAt_finalState (hdelims : plan.delims = []) (input : String) :
    (plan.finalState input).cutsAt = #[] := by
  obtain ⟨s, cur, s', hreach, hend, hfinal⟩ := plan.exists_reaches_finished input
  have hlast : plan.Visits input s' cur := .last hreach hend
  rw [hfinal]
  exact (hlast.noted.edges hdelims).2

/-- With delimiters, each cut has its match beside it. -/
theorem cuts_finalState (hdelims : plan.delims ≠ []) (input : String) :
    (plan.finalState input).cuts = (plan.finalState input).cutsAt.map (some ·.2) := by
  obtain ⟨s, cur, t, hreach, hend, hfinal⟩ := plan.exists_reaches_finished input
  rw [hfinal]
  exact (Visits.last hreach hend).noted.cuts hdelims

theorem size_finished_finalState (plan : Plan) (input : String) :
    (plan.finalState input).buffer.finished.size = (plan.finalState input).cuts.size :=
  finished_run State.aligned_start input.toList.length (.ofText input)

/-- At the end the current token is begun. -/
theorem tokens_finalState (plan : Plan) (input : String) :
    (plan.finalState input).buffer.tokens =
      (plan.finalState input).buffer.finished.push
        ((plan.finalState input).buffer.current.getD {}) :=
  rfl

theorem size_tokens_finalState (plan : Plan) (input : String) :
    (plan.finalState input).buffer.tokens.size =
      (plan.finalState input).buffer.finished.size + 1 := by
  rw [tokens_finalState, Array.size_push]

/-- Behind the cut that freezes a scan there is one token. -/
theorem frozen_of_freezes (h : plan.Freezes input n t cur)
    (hgrows : t.Grows (plan.finalState input))
    (hframed : t.Framed ((plan.limited n).finalState input)) (delims : List Delimiter)
    (options : Options) :
    n ≤ (plan.finalState input).cuts.size ∧
      ScanResult.Frozen n ((plan.finalState input).result delims options)
        (((plan.limited n).finalState input).result delims { options with limit := some n }) := by
  obtain ⟨xs, htiled⟩ := exists_tiled h.free
  have hcuts : t.cuts.toList.length = n := h.size_cuts
  have hfinished : t.buffer.finished.size = n := h.free.aligned.finished.trans h.size_cuts
  have htokens := hgrows.finished.trans (plan.finalState input).buffer.finished_prefix_tokens
  have htokens' := ((plan.limited n).finalState input).buffer.finished_prefix_tokens
  rw [hframed.finished] at htokens'
  have hcutsAt : t.cutsAt.toList = (plan.finalState input).cutsAt.toList.take n := by
    by_cases hdelims : plan.delims = []
    · have hnone : t.cutsAt = #[] := (h.free.noted.edges hdelims).2
      rw [hnone, cutsAt_finalState hdelims]
      exact List.take_nil.symm
    · have hsize : t.cutsAt.toList.length = n := by
        rw [← h.size_cuts, h.free.noted.cuts hdelims]
        simp
      rw [← hsize]
      exact List.prefix_iff_eq_take.mp hgrows.cutsAt
  refine ⟨hcuts ▸ hgrows.cuts.length_le, rfl, rfl, ?_, ?_, ?_, ?_, ?_, ?_⟩
  · show ((plan.limited n).finalState input).cuts.toList = _
    rw [hframed.cuts, ← hcuts]
    exact List.prefix_iff_eq_take.mp hgrows.cuts
  · show ((plan.limited n).finalState input).cutsAt.toList = _
    rw [hframed.cutsAt]
    exact hcutsAt
  · -- Both scans had finished the same `n` tokens when one of them was frozen.
    have hlength : t.buffer.finished.toList.length = n := hfinished
    have hfree := List.prefix_iff_eq_take.mp htokens
    have hlimited := List.prefix_iff_eq_take.mp htokens'
    rw [hlength] at hfree hlimited
    exact hlimited.symm.trans hfree
  · show ((plan.limited n).finalState input).buffer.tokens.size = n + 1
    rw [size_tokens_finalState, hframed.finished, hfinished]
  · exact hframed.stop.trans htiled.stop
  · exact hframed.maxDepth.trans_le hgrows.maxDepth

/-- What a limit makes of the final state. With delimiters, it leaves no block open. -/
theorem limited_finalState (hlimit : plan.options.limit = none) (input : String) (n : Nat)
    (delims : List Delimiter) (options : Options) :
    ScanResult.Limited n ((plan.finalState input).result delims options)
        (((plan.limited n).finalState input).result delims { options with limit := some n }) ∧
      (plan.delims ≠ [] → (plan.finalState input).nesting = [] →
        ((plan.limited n).finalState input).nesting = []) := by
  rcases finalState_limited hlimit input n with ⟨hlt, hsame⟩ | ⟨t, cur, hfreezes, hgrows, hframed⟩
  · rw [hsame]
    exact ⟨.same hlt rfl, fun _ hnesting => hnesting⟩
  · obtain ⟨hmany, hfrozen⟩ := frozen_of_freezes hfreezes hgrows hframed delims options
    refine ⟨.frozen hmany hfrozen, fun hdelims _ => ?_⟩
    exact hframed.nesting.trans (hfreezes.nesting hdelims)

end Plan

/-- A limit freezes the tail of a scan and nothing else. With delimiters it never turns a result
into an error; without, it may do so where it leaves a block open. -/
theorem scan_limited (input : String) (options : Options) (delims : List Delimiter)
    (hlimit : options.limit = none) (n : Nat) {r : ScanResult}
    (hfree : scan input options delims = .ok r) :
    (delims ≠ [] → ∃ r', scan input { options with limit := some n } delims = .ok r') ∧
    ∀ r', scan input { options with limit := some n } delims = .ok r' → r.Limited n r' := by
  obtain ⟨plan, hmake, rfl⟩ := exists_plan_of_scan hfree
  obtain ⟨rfl, hdelims, -⟩ := Plan.make_eq_ok_iff.mp hmake
  obtain ⟨hlimited, hnesting⟩ :=
    Plan.limited_finalState hlimit input n delims plan.options
  rw [scan_of_make hmake, State.verdict_eq_ok_iff] at hfree
  simp only [scan_of_make (Plan.make_limited hmake n)]
  constructor
  · intro hne
    have hne' : plan.delims ≠ [] := mt (Plan.resolve_eq_nil_iff hdelims).mp hne
    exact ⟨_, State.verdict_of_nil (hnesting hne' hfree.1)⟩
  · intro r' hr'
    obtain ⟨-, rfl⟩ := State.verdict_eq_ok_iff.mp hr'
    exact hlimited

def untilSemicolon : Options := { stops := [.literal ";"] }

/-- Behind its only cut a scan sees neither the group nor the stop. -/
theorem scan_limited_to_one :
    untilSemicolon.limit = none ∧
    ∃ r r', scan "a,(b),c;d" untilSemicolon [.literal ","] = .ok r ∧
      scan "a,(b),c;d" { untilSemicolon with limit := some 1 } [.literal ","] = .ok r' ∧
      r.Limited 1 r' ∧ r.texts = ["a", "(b)", "c"] ∧ r'.texts = ["a", "(b),c;d"] := by
  refine ⟨rfl, _, _, rfl, rfl, ?_, rfl, rfl⟩
  exact (scan_limited "a,(b),c;d" untilSemicolon [.literal ","] rfl 1 rfl).2 _ rfl

end DelimiterScan
