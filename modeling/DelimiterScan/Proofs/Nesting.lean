import DelimiterScan.Proofs.Aligned
import DelimiterScan.Proofs.Opened
import Mathlib.Order.Bounds.Basic
import Mathlib.Order.MinMax

/-!
# How blocks open and close

A step in a quotation or a comment, on its way into one, or behind the limit leaves alone what is
not text. Any other step looks for a block, and opens it, closes the innermost one, or does neither
(`framed_or_looks`). Nothing else changes how many blocks are open, so the greatest depth is the
largest number of blocks that were open in a state so far (`isGreatest_depths`). `Disciplined` puts
this together, and `disciplined_of_reaches` says it of every state of a scan.
-/

namespace DelimiterScan

variable {plan : Plan} {input : String} {s t u : State} {cur cur' : Cursor} {rest : List Char}

/-- A block that closes is the innermost one, and its last marker stands at the cursor. -/
theorem Boundary.closes_of_ofBlocks {blocks nesting : List Block} {k : Block}
    (h : ofBlocks blocks nesting rest = .closes k) :
    (∃ outer, nesting = k :: outer) ∧ marked rest k.finish = true := by
  obtain ⟨k', -, hb⟩ := exists_ofBlock?_of_ofBlocks (by rw [h]; exact nofun)
  rw [h] at hb
  unfold ofBlock? at hb
  split at hb
  · cases hb
  · split at hb
    · cases hb
    · next innermost outer =>
      split at hb
      · next hfinish =>
        cases hb
        exact ⟨⟨outer, rfl⟩, hfinish.1 ▸ hfinish.2⟩
      · cases hb

namespace State

/-! ## What a step may leave alone -/

/-- Blocks, cuts with the tokens before them, and the stop are the same. -/
structure Framed (s t : State) : Prop where
  nesting : t.nesting = s.nesting
  maxDepth : t.maxDepth = s.maxDepth
  finished : t.buffer.finished = s.buffer.finished
  cuts : t.cuts = s.cuts
  cutsAt : t.cutsAt = s.cutsAt
  stop : t.stop = s.stop

/-- The same regions are open, and the greatest depth is the same. -/
structure SameOpen (s t : State) : Prop where
  nesting : t.nesting = s.nesting
  openQuote : t.openQuote = s.openQuote
  openComment : t.openComment = s.openComment
  maxDepth : t.maxDepth = s.maxDepth

theorem Framed.refl (s : State) : Framed s s := ⟨rfl, rfl, rfl, rfl, rfl, rfl⟩

theorem Framed.trans (h : Framed s t) (h' : Framed t u) : Framed s u where
  nesting := h'.nesting.trans h.nesting
  maxDepth := h'.maxDepth.trans h.maxDepth
  finished := h'.finished.trans h.finished
  cuts := h'.cuts.trans h.cuts
  cutsAt := h'.cutsAt.trans h.cutsAt
  stop := h'.stop.trans h.stop

theorem Framed.inComment (h : Framed s t) (b : Boundary Block) (c : String) :
    Framed s (Plan.inComment t cur b c).state := by
  obtain ⟨hnesting, hdepth, hfinished, hcuts, hcutsAt, hstop⟩ := h
  unfold Plan.inComment
  dsimp only
  split
  · cases b <;> exact ⟨hnesting, hdepth, hfinished, hcuts, hcutsAt, hstop⟩
  · exact ⟨hnesting, hdepth, hfinished, hcuts, hcutsAt, hstop⟩

theorem sameOpen_atBlockEdge (t : State) (cur : Cursor) (b : Boundary Block) (c : String) :
    SameOpen t (Plan.atBlockEdge t cur b c).state := by
  have hreaction := Plan.reaction_atBlockEdge t cur b c
  generalize Plan.atBlockEdge t cur b c = o at hreaction
  cases hreaction <;> exact ⟨rfl, rfl, rfl, rfl⟩

theorem sameOpen_cutState (plan : Plan) (s : State) (cur : Cursor) (matched : String)
    (width : Nat) : SameOpen s (plan.cutState s cur matched width) := by
  unfold Plan.cutState
  dsimp only
  split
  · exact ⟨rfl, rfl, rfl, rfl⟩
  · split <;> exact ⟨rfl, rfl, rfl, rfl⟩

theorem SameOpen.idle (h : SameOpen s t) (hidle : s.Idle) : t.Idle :=
  ⟨h.openQuote.trans hidle.openQuote, h.openComment.trans hidle.openComment⟩

theorem Idle.atBlock (h : s.Idle) (b : Boundary Block) : (s.atBlock b).Idle := by
  cases b <;> exact ⟨h.openQuote, h.openComment⟩

end State

namespace Plan

/-- A step leaves all but text alone, or it looks for a block, and what is open changes by that
block alone. -/
theorem framed_or_looks (plan : Plan) (s : State) (cur : Cursor) :
    s.Framed (plan.step s cur).state ∨
      plan.Looks s cur.rest ∧
        (s.atBlock (plan.blockAt s cur)).SameOpen (plan.step s cur).state := by
  cases hrest : cur.rest with
  | nil =>
    rw [step_of_rest_nil hrest]
    exact .inl (.refl s)
  | cons c cs =>
    have hreaction := plan.reaction_step s hrest
    rw [← hrest]
    generalize plan.step s cur = o at hreaction
    cases hreaction with
    | commentBegins | commentGoesOn | commentEnds =>
      refine .inl (State.Framed.inComment ?_ _ _)
      exact ⟨rfl, rfl, rfl, rfl, rfl, rfl⟩
    | quoteBegins | quoteGoesOn | quoteEnds | limited =>
      exact .inl ⟨rfl, rfl, rfl, rfl, rfl, rfl⟩
    | stopped hlooks => exact .inr ⟨hlooks, rfl, rfl, rfl, rfl⟩
    | edge hlooks => exact .inr ⟨hlooks, State.sameOpen_atBlockEdge _ _ _ _⟩
    | matched hlooks _ _ _ hblock _ =>
      rw [hblock]
      exact .inr ⟨hlooks, State.sameOpen_cutState plan s cur _ _⟩
    | unmatched hlooks _ _ _ hblock _ =>
      rw [hblock]
      exact .inr ⟨hlooks, rfl, rfl, rfl, rfl⟩
    | nested hlooks => exact .inr ⟨hlooks, rfl, rfl, rfl, rfl⟩

/-- Where a quotation or a comment is open before or behind a step, or no cut is left, the step
leaves all but text alone. -/
theorem framed_step
    (h : ¬ s.Idle ∨ ¬ (plan.step s cur).state.Idle ∨ plan.options.limit = some s.cuts.size) :
    s.Framed (plan.step s cur).state := by
  rcases plan.framed_or_looks s cur with hframed | ⟨hlooks, hopen⟩
  · exact hframed
  · rcases h with hbefore | hbehind | hlimit
    · exact absurd hlooks.toIdle hbefore
    · exact absurd (hopen.idle (hlooks.toIdle.atBlock _)) hbehind
    · exact absurd hlimit hlooks.limit

/-! ## What a step does to blocks -/

/-- How the open blocks of `t` come from those of `s`, at a text that goes on with `rest`. -/
inductive Nests (plan : Plan) (rest : List Char) (s t : State) : Prop
  | kept (nesting : t.nesting = s.nesting) (maxDepth : t.maxDepth = s.maxDepth)
  /-- One more block is open, inside of all others. -/
  | opened (k : Block) (mem : k ∈ plan.options.blocks) (mark : Boundary.marked rest k.start)
      (nesting : t.nesting = k :: s.nesting)
      (maxDepth : t.maxDepth = max s.maxDepth t.nesting.length)
  /-- The innermost block is not open any more. -/
  | closed (k : Block) (mark : Boundary.marked rest k.finish) (nesting : s.nesting = k :: t.nesting)
      (maxDepth : t.maxDepth = s.maxDepth)

theorem Nests.congr (h : plan.Nests rest s t) (hopen : t.SameOpen u) : plan.Nests rest s u := by
  obtain ⟨hnesting, -, -, hdepth⟩ := hopen
  cases h with
  | kept nesting maxDepth => exact .kept (hnesting.trans nesting) (hdepth.trans maxDepth)
  | opened k mem mark nesting maxDepth =>
    exact .opened k mem mark (hnesting.trans nesting) (hnesting ▸ hdepth.trans maxDepth)
  | closed k mark nesting maxDepth =>
    exact .closed k mark (hnesting ▸ nesting) (hdepth.trans maxDepth)

theorem nests_atBlock (plan : Plan) (s : State) (cur : Cursor) :
    plan.Nests cur.rest s (s.atBlock (plan.blockAt s cur)) := by
  cases hb : plan.blockAt s cur with
  | none => exact .kept rfl rfl
  | opens k =>
    obtain ⟨hk, hmark⟩ := Boundary.opens_of_ofBlocks hb
    exact .opened k hk hmark rfl rfl
  | closes k =>
    obtain ⟨⟨outer, hnesting⟩, hmark⟩ := Boundary.closes_of_ofBlocks hb
    have htail : (s.atBlock (.closes k)).nesting = outer := congrArg List.tail hnesting
    exact .closed k hmark (htail.symm ▸ hnesting) rfl

/-- A step opens one block or closes the innermost one, or does neither. -/
theorem nests_step (plan : Plan) (s : State) (cur : Cursor) :
    plan.Nests cur.rest s (plan.step s cur).state := by
  rcases plan.framed_or_looks s cur with hframed | ⟨-, hopen⟩
  · exact .kept hframed.nesting hframed.maxDepth
  · exact (plan.nests_atBlock s cur).congr hopen

theorem Nests.maxDepth_le (h : plan.Nests rest s t) : s.maxDepth ≤ t.maxDepth := by
  cases h with
  | kept _ hdepth | closed _ _ _ hdepth => exact hdepth.ge
  | opened _ _ _ _ hdepth => exact hdepth ▸ Nat.le_max_left _ _

/-- The greatest depth grows only as far as the blocks that are open. -/
theorem Nests.maxDepth_eq_or (h : plan.Nests rest s t) :
    t.maxDepth = s.maxDepth ∨ t.maxDepth = t.nesting.length := by
  cases h with
  | kept _ hdepth | closed _ _ _ hdepth => exact .inl hdepth
  | opened _ _ _ _ hdepth =>
    rw [hdepth]
    exact max_choice _ _

theorem Nests.length_le (h : plan.Nests rest s t) (hdepth : s.nesting.length ≤ s.maxDepth) :
    t.nesting.length ≤ t.maxDepth := by
  cases h with
  | kept hnesting heq => rwa [hnesting, heq]
  | opened _ _ _ _ heq => exact heq ▸ Nat.le_max_right _ _
  | closed k _ hnesting heq =>
    rw [hnesting, List.length_cons] at hdepth
    rw [heq]
    exact Nat.le_of_succ_le hdepth

theorem maxDepth_le_of_leads {p q : State × Cursor} (h : plan.Leads p q) :
    p.1.maxDepth ≤ q.1.maxDepth := by
  induction h with
  | refl => exact Nat.le_refl _
  | @tail q r _ hstep ih =>
    have hnests := plan.nests_step q.1 q.2
    rw [hstep.state_step] at hnests
    exact ih.trans hnests.maxDepth_le

/-! ## The greatest depth -/

/-- How many blocks are open in the states of a scan up to `s` at `cur`. -/
def depths (plan : Plan) (input : String) (s : State) (cur : Cursor) : Set Nat :=
  {d | ∃ t cur', plan.Reaches input t cur' ∧ plan.Leads (t, cur') (s, cur) ∧ t.nesting.length = d}

/-- A further step adds the blocks behind it to those that count. -/
theorem isGreatest_insert (hgreatest : IsGreatest (plan.depths input s cur) s.maxDepth)
    (hdepth : s.nesting.length ≤ s.maxDepth) :
    IsGreatest (insert (plan.step s cur).state.nesting.length (plan.depths input s cur))
      (plan.step s cur).state.maxDepth := by
  have hnests := plan.nests_step s cur
  constructor
  · rcases hnests.maxDepth_eq_or with heq | heq
    · exact .inr (heq ▸ hgreatest.1)
    · exact .inl heq
  · rintro d (rfl | hd)
    · exact hnests.length_le hdepth
    · exact (hgreatest.2 hd).trans hnests.maxDepth_le

theorem isGreatest_depths (h : plan.Reaches input s cur) :
    IsGreatest (plan.depths input s cur) s.maxDepth := by
  refine h.induct (motive := fun s cur => IsGreatest (plan.depths input s cur) s.maxDepth) ?_ ?_
  · refine ⟨⟨{}, .ofText input, .start, .refl, rfl⟩, ?_⟩
    rintro d ⟨t, cur', hreach, hleads, rfl⟩
    exact hreach.aligned.depth.trans (maxDepth_le_of_leads hleads)
  · intro s s' cur cur' hreach hgreatest hstep
    have hnext := isGreatest_insert hgreatest hreach.aligned.depth
    rw [hstep] at hnext
    constructor
    · rcases hnext.1 with heq | ⟨t, curT, hreachT, hleads, hd⟩
      · exact ⟨s', cur', hreach.step hstep, .refl, heq.symm⟩
      · exact ⟨t, curT, hreachT, hleads.snoc hstep, hd⟩
    · rintro d ⟨t, curT, hreachT, hleads, rfl⟩
      exact hreachT.aligned.depth.trans (maxDepth_le_of_leads hleads)

/-! ## The discipline -/

/-- The discipline of a scan of `input` that comes by `s` at `cur`, and of its step from there. -/
structure Disciplined (plan : Plan) (input : String) (s : State) (cur : Cursor) : Prop where
  opened : s.Opened plan
  opened_step : (plan.step s cur).state.Opened plan
  /-- Regions and the limit keep a step from blocks, cuts and stops. -/
  framed : ¬ s.Idle ∨ ¬ (plan.step s cur).state.Idle ∨ plan.options.limit = some s.cuts.size →
    s.Framed (plan.step s cur).state
  nests : plan.Nests cur.rest s (plan.step s cur).state
  greatest : IsGreatest (plan.depths input s cur) s.maxDepth
  greatest_step : IsGreatest
    (insert (plan.step s cur).state.nesting.length (plan.depths input s cur))
    (plan.step s cur).state.maxDepth

/-- A scan keeps the discipline wherever it comes by. -/
theorem disciplined_of_reaches (h : plan.Reaches input s cur) : plan.Disciplined input s cur where
  opened := h.opened
  opened_step := Plan.opened_step h.opened
  framed := framed_step
  nests := plan.nests_step s cur
  greatest := isGreatest_depths h
  greatest_step := isGreatest_insert (isGreatest_depths h) h.aligned.depth

/-- A plan where the mark of a quotation also begins a comment. -/
def markBeginsComment : Plan where
  options := { quotes := ["'"], comments := [⟨"'", ";"⟩] }
  delims := [.literal ","]
  stops := []

def inGroupAndQuotation : State where
  nesting := [⟨"(", ")"⟩]
  openQuote := some "'"
  maxDepth := 1
  buffer := ⟨#[], some ⟨"('a", []⟩⟩

/-- Where the quotation ends a comment begins, and the step leaves the group alone. -/
theorem disciplined_in_quotation :
    markBeginsComment.Reaches "('a'b;)" inGroupAndQuotation ⟨"('a", ['\'', 'b', ';', ')']⟩ ∧
    markBeginsComment.Disciplined "('a'b;)" inGroupAndQuotation ⟨"('a", ['\'', 'b', ';', ')']⟩ ∧
    (markBeginsComment.step inGroupAndQuotation ⟨"('a", ['\'', 'b', ';', ')']⟩).state =
      { inGroupAndQuotation with
        openQuote := none, openComment := some ⟨"'", ";"⟩
        buffer := ⟨#[], some ⟨"('a'", []⟩⟩ } := by
  have hgroup : markBeginsComment.Reaches "('a'b;)"
      { nesting := [⟨"(", ")"⟩], maxDepth := 1, buffer := ⟨#[], some ⟨"(", []⟩⟩ }
      ⟨"(", ['\'', 'a', '\'', 'b', ';', ')']⟩ :=
    Reaches.start.step rfl
  have hquotation : markBeginsComment.Reaches "('a'b;)"
      { inGroupAndQuotation with buffer := ⟨#[], some ⟨"('", []⟩⟩ }
      ⟨"('", ['a', '\'', 'b', ';', ')']⟩ :=
    hgroup.step rfl
  have hletter : markBeginsComment.Reaches "('a'b;)" inGroupAndQuotation
      ⟨"('a", ['\'', 'b', ';', ')']⟩ :=
    hquotation.step rfl
  exact ⟨hletter, disciplined_of_reaches hletter, rfl⟩

end Plan

end DelimiterScan
