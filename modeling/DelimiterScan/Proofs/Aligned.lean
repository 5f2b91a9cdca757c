import DelimiterScan.Proofs.Reaction

/-!
# Tokens beside cuts

Between two steps there is a finished token for each cut; inside a block there is a current one
too, because the marker that opened the block was written to it; and no more blocks are open than
ever were. This is `State.Aligned`, which every step keeps (`aligned_step`).
-/

namespace DelimiterScan

variable {s s' t : State} {cur cur' : Cursor} {plan : Plan} {input : String}

namespace State

/-- Tokens and cuts go side by side. -/
structure Aligned (s : State) : Prop where
  finished : s.buffer.finished.size = s.cuts.size
  begun : s.nesting ≠ [] → s.buffer.current.isSome = true
  depth : s.nesting.length ≤ s.maxDepth

theorem aligned_start : ({} : State).Aligned := ⟨rfl, fun h => absurd rfl h, Nat.le_refl _⟩

namespace Aligned

theorem addText (h : t.buffer.finished.size = t.cuts.size) (hdepth : t.nesting.length ≤ t.maxDepth)
    (text : String) : (t.addText text).Aligned :=
  ⟨h, fun _ => rfl, hdepth⟩

theorem beginComment (h : t.Aligned) : t.beginComment.Aligned := ⟨h.finished, fun _ => rfl, h.depth⟩

theorem addComment (h : t.Aligned) (text : String) : (t.addComment text).Aligned :=
  ⟨h.finished, fun _ => rfl, h.depth⟩

theorem atQuote (h : s.Aligned) (b : Boundary String) : (s.atQuote b).Aligned := by
  cases b <;> exact ⟨h.finished, h.begun, h.depth⟩

theorem atComment (h : s.Aligned) (b : Boundary Block) : (s.atComment b).Aligned := by
  cases b <;> exact ⟨h.finished, h.begun, h.depth⟩

theorem depth_atBlock (h : s.Aligned) (b : Boundary Block) :
    (s.atBlock b).nesting.length ≤ (s.atBlock b).maxDepth := by
  have hdepth := h.depth
  cases b with
  | none => exact hdepth
  | opens k => exact Nat.le_max_right _ _
  | closes k =>
    show s.nesting.tail.length ≤ s.maxDepth
    rw [List.length_tail]
    omega

theorem finished_atBlock (h : s.Aligned) (b : Boundary Block) :
    (s.atBlock b).buffer.finished.size = (s.atBlock b).cuts.size := by
  cases b <;> exact h.finished

/-- A cut keeps tokens and cuts side by side, outside of blocks or where text follows. -/
theorem size_cut (h : t.buffer.finished.size = t.cuts.size) (matched : Option String) :
    (t.cut matched).buffer.finished.size = (t.cut matched).cuts.size := by
  simp [cut, h]

end Aligned

end State

namespace Plan

/-- A cut at a match finishes the token that is there by then. -/
theorem aligned_cutState (h : s.Aligned) (hnesting : s.nesting = []) (cur : Cursor)
    (matched : String) (width : Nat) : (plan.cutState s cur matched width).Aligned := by
  have hnoted : (s.ensureToken.noteMatch cur.offset matched).Aligned :=
    ⟨h.finished, fun _ => rfl, h.depth⟩
  have hcut := State.Aligned.size_cut hnoted.finished (some matched)
  have hflat : ∀ {p : Prop}, s.nesting ≠ [] → p := fun hne => absurd hnesting hne
  unfold cutState
  dsimp only
  split
  · have htext := State.Aligned.addText hnoted.finished hnoted.depth (cur.passed width)
    exact ⟨State.Aligned.size_cut htext.finished _, hflat, h.depth⟩
  · split
    · exact ⟨hcut, hflat, h.depth⟩
    · exact ⟨hcut, hflat, h.depth⟩

theorem aligned_inComment {b : Boundary Block} {c : String} (h : t.Aligned)
    (hstep : Outcome.advanced s' cur' = inComment t cur b c) : s'.Aligned := by
  unfold inComment at hstep
  dsimp only at hstep
  split at hstep
  · cases hstep
    cases b with
    | none => exact h.addComment c
    | opens k => exact h.beginComment
    | closes k => exact h
  · cases hstep
    exact .addText h.finished h.depth _

theorem aligned_atBlockEdge {b : Boundary Block} {c : String} (h : s.Aligned)
    (hstep : Outcome.advanced s' cur' = atBlockEdge (s.atBlock b) cur b c) : s'.Aligned := by
  have hfinished := h.finished_atBlock b
  have hdepth := h.depth_atBlock b
  have hreaction := reaction_atBlockEdge (s.atBlock b) cur b c
  rw [← hstep] at hreaction
  generalize ho : Outcome.advanced s' cur' = o at hreaction
  cases hreaction with
  | plain =>
    cases ho
    exact .addText hfinished hdepth _
  | cutBefore =>
    cases ho
    exact .addText (State.Aligned.size_cut hfinished _) hdepth _
  | @cutBehind k hzero =>
    cases ho
    have htext : ((s.atBlock (.closes k)).addText k.finish).Aligned := .addText hfinished hdepth _
    refine ⟨State.Aligned.size_cut htext.finished _, fun hne => absurd ?_ hne, hdepth⟩
    exact List.eq_nil_of_length_eq_zero hzero

/-- A step keeps tokens and cuts side by side. -/
theorem aligned_step (h : s.Aligned) (hstep : plan.step s cur = .advanced s' cur') :
    s'.Aligned := by
  obtain ⟨c, cs, -, hreaction⟩ := exists_reaction hstep
  generalize ho : Outcome.advanced s' cur' = o at hreaction
  cases hreaction with
  | commentBegins | commentGoesOn | commentEnds =>
    refine aligned_inComment ?_ ho
    exact ⟨h.finished, h.begun, h.depth⟩
  | quoteBegins | quoteGoesOn | quoteEnds | limited | unmatched =>
    cases ho
    refine .addText ?_ ?_ _
    · exact h.finished
    · exact h.depth
  | stopped => cases ho
  | edge => exact aligned_atBlockEdge h ho
  | matched _ _ _ hnesting _ _ =>
    cases ho
    exact aligned_cutState h hnesting cur _ _
  | nested =>
    cases ho
    exact .addText (h.finished_atBlock _) (h.depth_atBlock _) _

/-- Also the last step leaves tokens and cuts side by side. -/
theorem finished_of_finished (h : s.Aligned) (hstep : plan.step s cur = .finished s') :
    s'.buffer.finished.size = s'.cuts.size := by
  cases hrest : cur.rest with
  | nil =>
    rw [step_of_rest_nil hrest] at hstep
    cases hstep
    exact h.finished
  | cons c cs =>
    obtain ⟨matched, -, -, -, rfl⟩ := stopped_of_finished hrest hstep
    exact h.finished_atBlock _

theorem finished_run (h : s.Aligned) (n : Nat) (cur : Cursor) :
    (plan.run n s cur).buffer.finished.size = (plan.run n s cur).cuts.size := by
  induction n generalizing s cur with
  | zero => exact h.finished
  | succ n ih =>
    rw [run]
    cases hstep : plan.step s cur with
    | finished s' => exact finished_of_finished h hstep
    | advanced s' cur' => exact ih (aligned_step h hstep) cur'

theorem Reaches.aligned (h : plan.Reaches input s cur) : s.Aligned :=
  h.induct (motive := fun s _ => s.Aligned) State.aligned_start
    fun _ haligned hstep => aligned_step haligned hstep

end Plan

end DelimiterScan
