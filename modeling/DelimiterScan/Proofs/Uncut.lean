import DelimiterScan.Proofs.Comments
import DelimiterScan.Proofs.KeptDelimiters
import DelimiterScan.Proofs.Limit

/-!
# Scans that cut nowhere

Where no delimiter matches, a scan sees the same regions as one without delimiters. Both pass the
same widths and write the same text, but the one without delimiters cuts at blocks and so has the
text in more tokens. `State.Regroups` is the relation between both; every step without a cut keeps
it (`Plan.regroups_step`), so it holds along both runs, and `scan_uncut` says it of the results.
-/

namespace DelimiterScan

variable {plan : Plan} {input : String} {s t : State} {cur : Cursor}

/-! ## The same text in other tokens -/

namespace State

/-- The states differ in their cuts and in how the text is divided into tokens. -/
structure Regroups (s t : State) : Prop extends SameOpen s t where
  comments : t.comments = s.comments
  stop : t.stop = s.stop
  text : String.join t.pieces = String.join s.pieces

namespace Regroups

theorem refl (s : State) : Regroups s s := ⟨⟨rfl, rfl, rfl, rfl⟩, rfl, rfl, rfl⟩

/-- Text that goes to the current tokens comes last in both. -/
theorem addText (h : Regroups s t) (text : String) :
    Regroups (s.addText text) (t.addText text) := by
  refine ⟨⟨h.nesting, h.openQuote, h.openComment, h.maxDepth⟩, h.comments, h.stop, ?_⟩
  rw [pieces_addText, pieces_addText, join_appendToLast, join_appendToLast, h.text]

theorem beginComment (h : Regroups s t) : Regroups s.beginComment t.beginComment := by
  refine ⟨⟨h.nesting, h.openQuote, h.openComment, h.maxDepth⟩, ?_, h.stop, ?_⟩
  · exact congrArg (· ++ [""]) h.comments
  · rw [pieces_beginComment, pieces_beginComment, h.text]

theorem addComment (h : Regroups s t) (text : String) :
    Regroups (s.addComment text) (t.addComment text) := by
  refine ⟨⟨h.nesting, h.openQuote, h.openComment, h.maxDepth⟩, ?_, h.stop, ?_⟩
  · exact congrArg (appendToLast · text) h.comments
  · rw [pieces_addComment, pieces_addComment, h.text]

/-- A cut on one side divides the text there and adds nothing to it. -/
theorem cut_right (h : Regroups s t) : Regroups s (t.cut none) := by
  refine ⟨⟨h.nesting, h.openQuote, h.openComment, h.maxDepth⟩, h.comments, h.stop, ?_⟩
  rw [pieces_cut, String.join_append, h.text, String.join_cons, String.join_nil,
    String.append_empty, String.append_empty]

/-- It makes no difference to the text whether a token has been begun. -/
theorem ensureToken_left (h : Regroups s t) : Regroups s.ensureToken t :=
  ⟨⟨h.nesting, h.openQuote, h.openComment, h.maxDepth⟩, h.comments, h.stop, h.text⟩

theorem ensureToken (h : Regroups s t) : Regroups s.ensureToken t.ensureToken :=
  ⟨⟨h.nesting, h.openQuote, h.openComment, h.maxDepth⟩, h.comments, h.stop, h.text⟩

theorem atQuote (h : Regroups s t) (b : Boundary String) :
    Regroups (s.atQuote b) (t.atQuote b) := by
  cases b with
  | none => exact h
  | opens | closes =>
    exact ⟨⟨h.nesting, rfl, h.openComment, h.maxDepth⟩, h.comments, h.stop, h.text⟩

theorem atComment (h : Regroups s t) (b : Boundary Block) :
    Regroups (s.atComment b) (t.atComment b) := by
  cases b with
  | none => exact h
  | opens | closes =>
    exact ⟨⟨h.nesting, h.openQuote, rfl, h.maxDepth⟩, h.comments, h.stop, h.text⟩

theorem atBlock (h : Regroups s t) (b : Boundary Block) :
    Regroups (s.atBlock b) (t.atBlock b) := by
  cases b with
  | none => exact h
  | opens k =>
    refine ⟨⟨congrArg (k :: ·) h.nesting, h.openQuote, h.openComment, ?_⟩, h.comments, h.stop,
      h.text⟩
    show max t.maxDepth (t.nesting.length + 1) = max s.maxDepth (s.nesting.length + 1)
    rw [h.nesting, h.maxDepth]
  | closes k =>
    exact ⟨⟨congrArg List.tail h.nesting, h.openQuote, h.openComment, h.maxDepth⟩, h.comments,
      h.stop, h.text⟩

/-- Both are stopped at the same place. -/
theorem stopAt (h : Regroups s t) (stop : Option Stop) :
    Regroups { s with stop := stop } { t with stop := stop } :=
  ⟨⟨h.nesting, h.openQuote, h.openComment, h.maxDepth⟩, h.comments, rfl, h.text⟩

end Regroups

end State

/-- Both outcomes are of one kind and at one place, and only cuts and tokens differ. -/
inductive Outcome.Regroups : Outcome → Outcome → Prop
  | advanced {s t : State} {cur : Cursor} (h : s.Regroups t) :
      Regroups (.advanced s cur) (.advanced t cur)
  | finished {s t : State} (h : s.Regroups t) : Regroups (.finished s) (.finished t)

/-! ## One step -/

namespace Plan

def withoutDelims (plan : Plan) : Plan := { plan with delims := [] }

theorem make_withoutDelims {options : Options} {delims : List Delimiter}
    (h : Plan.make options delims = .ok plan) :
    Plan.make options [] = .ok plan.withoutDelims := by
  obtain ⟨hoptions, -, hstops⟩ := make_eq_ok_iff.mp h
  refine make_eq_ok_iff.mpr ⟨hoptions, ?_, hstops⟩
  cases options.useRegex <;> rfl

theorem cuts_cutState (plan : Plan) (s : State) (cur : Cursor) (matched : String) (width : Nat) :
    (plan.cutState s cur matched width).cuts = s.cuts.push (some matched) := by
  unfold cutState
  dsimp only
  split
  · rfl
  · split <;> rfl

theorem regroups_plain (h : s.Regroups t) (cur : Cursor) (text : String) :
    Outcome.Regroups (.plain s cur text) (.plain t cur text) :=
  .advanced (h.addText text)

theorem regroups_inComment (h : s.Regroups t) (cur : Cursor) (b : Boundary Block) (c : String) :
    Outcome.Regroups (inComment s cur b c) (inComment t cur b c) := by
  by_cases hnesting : s.nesting = []
  · have hnesting' : t.nesting = [] := h.nesting.trans hnesting
    rw [inComment_top hnesting, inComment_top hnesting']
    cases b with
    | none => exact .advanced (h.addComment c)
    | opens k => exact .advanced h.beginComment
    | closes k => exact .advanced h
  · have hnesting' : t.nesting ≠ [] := h.nesting ▸ hnesting
    rw [inComment_nested hnesting, inComment_nested hnesting']
    exact regroups_plain h cur _

/-- Where text goes to the token with delimiters, it does so without, before or behind a cut. -/
theorem regroups_atBlockEdge (h : s.Regroups t) (cur : Cursor) (b : Boundary Block) (c : String) :
    Outcome.Regroups (.plain s cur (b.marker?.getD c)) (atBlockEdge t cur b c) := by
  have hreaction := reaction_atBlockEdge t cur b c
  generalize atBlockEdge t cur b c = o at hreaction
  cases hreaction with
  | plain => exact regroups_plain h cur _
  | cutBefore => exact regroups_plain h.cut_right cur _
  | cutBehind => exact .advanced (h.addText _).cut_right

theorem stop?_withoutDelims (hstops : ∀ p, .predicate p ∉ plan.stops) (h : s.Regroups t)
    (cur : Cursor) : plan.withoutDelims.stop? t cur = plan.stop? s cur := by
  have hfinds := Delimiter.firstMatch?_of_no_predicate hstops cur t.buffer s.buffer
    plan.options.caseInsensitive
  rw [stop?, stop?, h.nesting]
  exact congrArg (fun found => if s.nesting.isEmpty then found else none) hfinds

theorem blockAt_withoutDelims (h : s.Regroups t) (cur : Cursor) :
    plan.withoutDelims.blockAt t cur = plan.blockAt s cur := by
  rw [blockAt, blockAt, h.nesting]
  rfl

section Uncut

variable (hlimit : plan.options.limit = none) (hstops : ∀ p, .predicate p ∉ plan.stops)
  (hdelims : plan.delims ≠ [])
include hstops hdelims

/-- Outside of comments and quotations. A delimiter that matched would cut. -/
theorem regroups_inText (h : s.Regroups t) {c : String}
    (huncut : (plan.inText s cur c).state.cuts = s.cuts) :
    Outcome.Regroups (plan.inText s cur c) (plan.withoutDelims.inText t cur c) := by
  have hsame : plan.withoutDelims.blockAt t cur = plan.blockAt s cur := blockAt_withoutDelims h cur
  have hblock := h.atBlock (plan.blockAt s cur)
  have hstop : plan.withoutDelims.stop? (t.atBlock (plan.withoutDelims.blockAt t cur)) cur =
      plan.stop? (s.atBlock (plan.blockAt s cur)) cur := by
    rw [hsame]
    exact stop?_withoutDelims hstops hblock cur
  cases hfound : plan.stop? (s.atBlock (plan.blockAt s cur)) cur with
  | some matched =>
    rw [inText_stopped hfound, inText_stopped (hstop.trans hfound), hsame]
    exact .finished (hblock.stopAt _)
  | none =>
    rw [inText_edge (hstop.trans hfound) rfl, hsame]
    by_cases hnested : (s.atBlock (plan.blockAt s cur)).nesting ≠ [] ∨
        (plan.blockAt s cur).isClosing
    · rw [inText_nested hfound hdelims hnested]
      exact regroups_atBlockEdge hblock cur _ c
    · have hopen := not_or.mp hnested
      have hnone := blockAt_eq_none (not_not.mp hopen.1) hopen.2
      simp only [hnone, State.atBlock, not_not] at hopen hfound hblock ⊢
      rw [inText_flat hfound hdelims hopen.1 hnone] at huncut ⊢
      cases hmatch : Delimiter.firstMatch? plan.delims cur s.ensureToken.buffer
          plan.options.caseInsensitive with
      | none =>
        rw [atDelimiter_of_no_match hmatch]
        exact regroups_atBlockEdge h.ensureToken_left cur .none c
      | some matched =>
        rw [atDelimiter_of_match hmatch] at huncut
        have hsize := congrArg Array.size ((cuts_cutState ..).symm.trans huncut)
        simp at hsize

include hlimit

theorem regroups_proceed (h : s.Regroups t) (quote : Boundary String) (comment : Boundary Block)
    {c : String} (huncut : (plan.proceed s cur quote comment c).state.cuts = s.cuts) :
    Outcome.Regroups (plan.proceed s cur quote comment c)
      (plan.withoutDelims.proceed t cur quote comment c) := by
  have hfree : plan.options.limit ≠ some s.cuts.size := by simp [hlimit]
  have hfree' : plan.withoutDelims.options.limit ≠ some t.cuts.size := by
    simp [withoutDelims, hlimit]
  unfold proceed at huncut ⊢
  rw [h.openComment, h.openQuote, if_neg hfree']
  rw [if_neg hfree] at huncut ⊢
  split
  · exact regroups_inComment h cur _ _
  · next hcomment =>
    split
    · exact regroups_plain h cur _
    · next hquote =>
      rw [if_neg hcomment, if_neg hquote] at huncut
      exact regroups_inText hstops hdelims h huncut

/-- Both scans take the same step, unless it cuts at a delimiter. -/
theorem regroups_step (h : s.Regroups t) (huncut : (plan.step s cur).state.cuts = s.cuts) :
    Outcome.Regroups (plan.step s cur) (plan.withoutDelims.step t cur) := by
  cases hrest : cur.rest with
  | nil =>
    rw [step_of_rest_nil hrest, step_of_rest_nil hrest]
    exact .finished h
  | cons c cs =>
    -- Markers are looked for by what is open, and never by tokens.
    have hquote : plan.withoutDelims.quoteAt t cur = plan.quoteAt s cur := by
      unfold quoteAt
      rw [h.openComment, h.openQuote]
      rfl
    have hcomment : ∀ {s t : State}, s.Regroups t →
        plan.withoutDelims.commentAt t cur = plan.commentAt s cur := by
      intro s t h
      unfold commentAt
      rw [h.openComment, h.openQuote]
      rfl
    have hquoted := h.atQuote (plan.quoteAt s cur)
    rw [step_eq hrest] at huncut ⊢
    rw [step_eq hrest, hquote, hcomment hquoted]
    refine regroups_proceed hlimit hstops hdelims (hquoted.atComment _) _ _ (huncut.trans ?_)
    generalize plan.commentAt (s.atQuote (plan.quoteAt s cur)) cur = comment
    cases plan.quoteAt s cur <;> cases comment <;> rfl

/-! ## Whole runs -/

/-- As long as no cut is made, the scan without delimiters comes by the same places. -/
theorem exists_regrouped (h : plan.Reaches input s cur) (huncut : s.cuts = #[]) :
    ∃ t, plan.withoutDelims.Reaches input t cur ∧ s.Regroups t := by
  refine h.induct (motive := fun s cur => s.cuts = #[] →
    ∃ t, plan.withoutDelims.Reaches input t cur ∧ s.Regroups t) ?_ ?_ huncut
  · exact fun _ => ⟨{}, .start, .refl {}⟩
  · intro s s' cur cur' _ ih hstep huncut
    have hgrows := (plan.grows_step s cur).cuts
    rw [hstep] at hgrows
    have hbefore : s.cuts = #[] := by
      rw [← Array.toList_eq_nil_iff, ← List.prefix_nil]
      simpa [Outcome.state, huncut] using hgrows
    obtain ⟨t, hreach, hregroups⟩ := ih hbefore
    have hsame : (plan.step s cur).state.cuts = s.cuts := by
      rw [hstep, hbefore]
      exact huncut
    have houtcome := regroups_step hlimit hstops hdelims hregroups hsame
    rw [hstep] at houtcome
    generalize ho : plan.withoutDelims.step t cur = o at houtcome
    cases houtcome with
    | advanced h' => exact ⟨_, hreach.step ho, h'⟩

/-- A scan that cuts nowhere and the one without delimiters end alike. -/
theorem regroups_finalState (huncut : (plan.finalState input).cuts = #[]) :
    (plan.finalState input).Regroups (plan.withoutDelims.finalState input) := by
  obtain ⟨s, cur, s', hreach, hend, hfinal⟩ := plan.exists_reaches_finished input
  rw [hfinal] at huncut ⊢
  have hcuts := (cuts_of_finished hend).1
  obtain ⟨t, hreach', hregroups⟩ := exists_regrouped hlimit hstops hdelims hreach
    (hcuts.symm.trans huncut)
  have hsame : (plan.step s cur).state.cuts = s.cuts := by
    rw [hend]
    exact hcuts
  have houtcome := regroups_step hlimit hstops hdelims hregroups hsame
  rw [hend] at houtcome
  generalize ho : plan.withoutDelims.step t cur = o at houtcome
  cases houtcome with
  | finished h' =>
    rw [finalState_eq hreach' ho]
    exact h'.ensureToken

end Uncut

/-! ## Results -/

theorem texts_finalState (plan : Plan) (input : String) :
    (plan.finalState input).buffer.tokens.toList.map (·.text) = (plan.finalState input).pieces :=
  State.texts_ensureToken _

/-- The comments of a result are those of its tokens. -/
theorem comments_finalState (plan : Plan) (input : String) :
    (plan.finalState input).buffer.tokens.toList.flatMap (·.comments) =
      (plan.finalState input).comments := by
  obtain ⟨s, cur, t, hreach, hend, hfinal⟩ := plan.exists_reaches_finished input
  have hlast : t.Mirrored := (Visits.last hreach hend).mirrored
  rw [hfinal, TokenBuffer.flatMap_tokens]
  exact hlast.comments.symm

/-- Without cuts there is one token. -/
theorem exists_tokens_eq_singleton (huncut : (plan.finalState input).cuts = #[]) :
    ∃ token, (plan.finalState input).buffer.tokens = #[token] := by
  have hfinished : (plan.finalState input).buffer.finished = #[] := by
    rw [← Array.size_eq_zero_iff, size_finished_finalState, huncut, Array.size_empty]
  rw [tokens_finalState, hfinished]
  exact ⟨_, rfl⟩

end Plan

/-- Where no delimiter matches, the scan without delimiters sees the same structure: it succeeds
too, with the same comments, the same greatest depth and the same stop, and its tokens are the one
token of the other scan in pieces. -/
theorem scan_uncut {options : Options} {delims : List Delimiter} {r : ScanResult}
    (hlimit : options.limit = none) (hstops : ∀ p, .predicate p ∉ options.stops)
    (hdelims : delims ≠ []) (hscan : scan input options delims = .ok r) (huncut : r.cuts = #[]) :
    ∃ r' token, scan input options [] = .ok r' ∧ r.tokens = #[token] ∧
      r'.comments = r.comments ∧ r'.maxDepth = r.maxDepth ∧ r'.stop = r.stop ∧
      String.join r'.texts = token.text ∧
      r'.tokens.toList.flatMap (·.comments) = token.comments := by
  obtain ⟨plan, hmake, rfl⟩ := exists_plan_of_scan hscan
  obtain ⟨hoptions, hresolved, hresolvedStops⟩ := Plan.make_eq_ok_iff.mp hmake
  have hregroups : (plan.finalState input).Regroups (plan.withoutDelims.finalState input) := by
    refine Plan.regroups_finalState ?_ (fun p hp => ?_) ?_ huncut
    · rw [hoptions, hlimit]
    · exact hstops p (Plan.mem_of_mem_resolve hresolvedStops hp)
    · exact mt (Plan.resolve_eq_nil_iff hresolved).mp hdelims
  obtain ⟨token, htoken⟩ := Plan.exists_tokens_eq_singleton huncut
  have hscan' := scan_of_make (Plan.make_withoutDelims hmake) input
  have hclosed : (plan.finalState input).nesting = [] := by
    rw [scan_of_make hmake] at hscan
    exact (State.verdict_eq_ok_iff.mp hscan).1
  rw [State.verdict_of_nil (hregroups.nesting.trans hclosed)] at hscan'
  refine ⟨_, token, hscan', htoken, hregroups.comments, hregroups.maxDepth, hregroups.stop, ?_, ?_⟩
  · calc String.join ((plan.withoutDelims.finalState input).buffer.tokens.toList.map (·.text))
        = String.join (plan.withoutDelims.finalState input).pieces := by
          rw [Plan.texts_finalState]
      _ = String.join (plan.finalState input).pieces := hregroups.text
      _ = String.join ((plan.finalState input).buffer.tokens.toList.map (·.text)) := by
          rw [Plan.texts_finalState]
      _ = token.text := by simp [htoken]
  · calc (plan.withoutDelims.finalState input).buffer.tokens.toList.flatMap (·.comments)
        = (plan.withoutDelims.finalState input).comments := Plan.comments_finalState _ input
      _ = (plan.finalState input).comments := hregroups.comments
      _ = (plan.finalState input).buffer.tokens.toList.flatMap (·.comments) :=
          (Plan.comments_finalState plan input).symm
      _ = token.comments := by simp [htoken]

/-- Groups inside a group, a comment, and a stop behind them. The comma is inside the groups. -/
theorem scan_uncut_groups :
    untilSemicolon.limit = none ∧ (∀ p, .predicate p ∉ untilSemicolon.stops) ∧
    [Delimiter.literal ","] ≠ [] ∧
    ∃ r r' token, scan "a(b[c,]{d})e/*x*/;f" untilSemicolon [.literal ","] = .ok r ∧
      r.cuts = #[] ∧ r.tokens = #[token] ∧ token.text = "a(b[c,]{d})e" ∧
      scan "a(b[c,]{d})e/*x*/;f" untilSemicolon [] = .ok r' ∧
      r'.texts = ["a(b", "[c,]", "{d})", "e"] ∧ r'.comments = r.comments ∧
      r'.maxDepth = r.maxDepth ∧ r'.stop = r.stop ∧ String.join r'.texts = token.text ∧
      r'.tokens.toList.flatMap (·.comments) = token.comments := by
  have hstops : ∀ p, .predicate p ∉ untilSemicolon.stops := by simp [untilSemicolon]
  have hdelims : [Delimiter.literal ","] ≠ [] := List.cons_ne_nil _ _
  obtain ⟨r', token, hscan', htoken, hsame⟩ :=
    @scan_uncut "a(b[c,]{d})e/*x*/;f" _ _ _ rfl hstops hdelims rfl rfl
  refine ⟨rfl, hstops, hdelims, _, r', token, rfl, rfl, htoken, ?_, hscan', ?_, hsame⟩
  · exact (congrArg Token.text (Array.singleton_inj.mp htoken)).symm
  · have htexts : (scan "a(b[c,]{d})e/*x*/;f" untilSemicolon []).toOption.map (·.texts) =
        some ["a(b", "[c,]", "{d})", "e"] := by decide +kernel
    rw [hscan'] at htexts
    exact Option.some.inj htexts

end DelimiterScan
