import DelimiterScan.Proofs.Tiling

/-!
# The current token

A scan has split its text wherever it made a cut. What is visible of the text behind the last split
is all but the comments outside of blocks and their markers (`Plan.Since`), and the current token
holds just that (`Reaches.since`): a step adds to the token what is visible of the text it passes,
or it splits and begins anew (`carries_of_advanced`).
-/

namespace DelimiterScan

variable {plan : Plan} {input piece passed text : String} {s t u : State} {cur cur' : Cursor}

def State.currentText (s : State) : String := (s.buffer.current.getD {}).text

namespace Plan

/-- What is visible of the text `passed` by a step from `s` to `t`: nothing in a comment outside of
blocks, where it begins or where it ends, else all. -/
def visible (s t : State) (passed : String) : String :=
  if s.topComment = none ∧ t.topComment = none then passed else ""

/-- The scan of `input` comes by `s` at `cur`, and `text` is what is visible of the text it has
passed since its last split. A block that opens with a split belongs to what follows. -/
inductive Since (plan : Plan) (input : String) : State → Cursor → String → Prop
  | start : Since plan input {} (.ofText input) ""
  | kept {s t : State} {cur cur' : Cursor} {text passed : String} (h : Since plan input s cur text)
      (hstep : plan.step s cur = .advanced t cur') (hpassed : cur'.before = cur.before ++ passed)
      (hcuts : t.cuts = s.cuts) : Since plan input t cur' (text ++ visible s t passed)
  | splitBefore {s t : State} {cur cur' : Cursor} {passed : String} {k : Block}
      (h : plan.Reaches input s cur) (hstep : plan.step s cur = .advanced t cur')
      (hpassed : cur'.before = cur.before ++ passed) (hcuts : t.cuts ≠ s.cuts)
      (hblock : plan.blockAt s cur = .opens k) : Since plan input t cur' passed
  | splitBehind {s t : State} {cur cur' : Cursor} (h : plan.Reaches input s cur)
      (hstep : plan.step s cur = .advanced t cur') (hcuts : t.cuts ≠ s.cuts)
      (hblock : ∀ k, plan.blockAt s cur ≠ .opens k) : Since plan input t cur' ""

/-- What a step from `s` to `t` that passes some text does to the text of the current token. -/
inductive Carries (plan : Plan) (s : State) (cur : Cursor) (t : State) (passed : String) : Prop
  | kept (hcuts : t.cuts = s.cuts) (htext : t.currentText = s.currentText ++ visible s t passed)
  | splitBefore {k : Block} (hcuts : t.cuts ≠ s.cuts) (hblock : plan.blockAt s cur = .opens k)
      (htext : t.currentText = passed)
  | splitBehind (hcuts : t.cuts ≠ s.cuts) (hblock : ∀ k, plan.blockAt s cur ≠ .opens k)
      (htext : t.currentText = "")

/-! ## What a step adds -/

theorem passed_of_marked (hmark : Boundary.marked cur.rest piece)
    (hpassed : (cur.advance piece.utf8ByteSize).before = cur.before ++ passed) :
    passed = piece := by
  obtain ⟨hne, hbegins⟩ := Boundary.marked_iff.mp hmark
  rw [Cursor.advance_before, Cursor.passed_of_begins hne hbegins] at hpassed
  exact (String.append_right_inj _).mp hpassed.symm

/-- A piece of text that is written to the token is visible. -/
theorem carries_plain (ho : Outcome.advanced t cur' = .plain u cur piece)
    (hpassed : cur'.before = cur.before ++ passed) (hmark : Boundary.marked cur.rest piece)
    (hcuts : u.cuts = s.cuts) (hcurrent : u.currentText = s.currentText)
    (hclosed : s.topComment = none) (hclosed' : u.topComment = none) :
    plan.Carries s cur t passed := by
  cases ho
  obtain rfl := passed_of_marked hmark hpassed
  refine .kept hcuts ?_
  rw [visible, if_pos ⟨hclosed, hclosed'⟩, ← hcurrent]
  rfl

/-- Nothing of a comment outside of blocks goes to the text of the token, and nothing of it is
visible. Inside blocks it is text like any other. -/
theorem carries_inComment {b : Boundary Block} {c : String}
    (ho : Outcome.advanced t cur' = inComment u cur b c)
    (hpassed : cur'.before = cur.before ++ passed)
    (hmark : Boundary.marked cur.rest (b.marker?.getD c))
    (hcuts : u.cuts = s.cuts) (hcurrent : u.currentText = s.currentText)
    (hnesting : u.nesting = s.nesting) (hopen : s.openComment ≠ none ∨ u.openComment ≠ none) :
    plan.Carries s cur t passed := by
  by_cases htop : u.nesting = []
  · rw [inComment_top htop] at ho
    cases ho
    have hkept : ∀ v : State, v.cuts = u.cuts → v.currentText = u.currentText →
        v.topComment = u.topComment → plan.Carries s cur v passed := by
      intro v hc ht ho
      refine .kept (hc.trans hcuts) ?_
      rw [visible, if_neg, String.append_empty, ht, hcurrent]
      rw [ho, State.topComment, State.topComment, if_pos htop, if_pos (hnesting ▸ htop)]
      exact not_and_or.mpr hopen
    cases b with
    | none => exact hkept _ rfl rfl rfl
    | opens k => exact hkept _ rfl rfl rfl
    | closes k => exact hkept _ rfl rfl rfl
  · rw [inComment_nested htop] at ho
    exact carries_plain ho hpassed hmark hcuts hcurrent (if_neg (hnesting ▸ htop)) (if_neg htop)

theorem currentText_atBlock (s : State) (b : Boundary Block) :
    (s.atBlock b).currentText = s.currentText := by
  cases b <;> rfl

theorem cuts_atBlock (s : State) (b : Boundary Block) : (s.atBlock b).cuts = s.cuts := by
  cases b <;> rfl

/-- Without delimiters, a split comes before the marker of a block that opens, or behind that of a
block that closes. -/
theorem carries_atBlockEdge {c : Char} {cs : List Char} (hrest : cur.rest = c :: cs)
    (hopen : s.openComment = none) (ho : Outcome.advanced t cur' =
      atBlockEdge (s.atBlock (plan.blockAt s cur)) cur (plan.blockAt s cur) c.toString)
    (hpassed : cur'.before = cur.before ++ passed) : plan.Carries s cur t passed := by
  have hmark := marked_blockAt plan s hrest
  have hcuts := cuts_atBlock s (plan.blockAt s cur)
  have hcurrent := currentText_atBlock s (plan.blockAt s cur)
  have hclosed := State.topComment_eq_none hopen
  have hclosed' : (s.atBlock (plan.blockAt s cur)).topComment = none :=
    State.topComment_eq_none ((State.openComment_atBlock s _).trans hopen)
  generalize hblock : plan.blockAt s cur = b at ho hmark hcuts hcurrent hclosed'
  have hreaction := reaction_atBlockEdge (s.atBlock b) cur b c.toString
  generalize atBlockEdge (s.atBlock b) cur b c.toString = o at ho hreaction
  cases hreaction with
  | plain => exact carries_plain ho hpassed hmark hcuts hcurrent hclosed hclosed'
  | cutBefore =>
    cases ho
    obtain rfl := passed_of_marked hmark hpassed
    exact .splitBefore Array.push_ne_self hblock String.empty_append
  | cutBehind =>
    cases ho
    refine .splitBehind Array.push_ne_self (fun k hopens => ?_) rfl
    cases hblock.symm.trans hopens

theorem carries_cutState (hblock : plan.blockAt s cur = .none) (place : Cursor) (matched : String)
    (width : Nat) : plan.Carries s cur (plan.cutState s place matched width) passed := by
  have hopens : ∀ k, plan.blockAt s cur ≠ .opens k := hblock ▸ nofun
  unfold cutState
  dsimp only
  split
  · exact .splitBehind Array.push_ne_self hopens rfl
  · split
    · exact .splitBehind Array.push_ne_self hopens rfl
    · exact .splitBehind Array.push_ne_self hopens rfl

/-- A step adds to the current token what is visible of the text it passes, or it splits. -/
theorem carries_of_advanced (hstep : plan.step s cur = .advanced t cur')
    (hpassed : cur'.before = cur.before ++ passed) : plan.Carries s cur t passed := by
  obtain ⟨c, cs, hrest, hreaction⟩ := exists_reaction hstep
  have hchar : Boundary.marked cur.rest c.toString := Boundary.marked_toString hrest
  have hclosed : s.openComment = none → s.topComment = none := State.topComment_eq_none
  generalize ho : Outcome.advanced t cur' = o at hreaction
  cases hreaction with
  | commentBegins _ _ _ hmark =>
    exact carries_inComment ho hpassed hmark rfl rfl rfl (.inr (Option.some_ne_none _))
  | commentGoesOn hcomment _ =>
    exact carries_inComment ho hpassed hchar rfl rfl rfl (.inl (by simp [hcomment]))
  | commentEnds _ hcomment hmark =>
    exact carries_inComment ho hpassed hmark rfl rfl rfl (.inl (by simp [hcomment]))
  | quoteBegins hidle _ hmark =>
    exact carries_plain ho hpassed hmark rfl rfl (hclosed hidle.openComment)
      (hclosed hidle.openComment)
  | quoteGoesOn _ hcomment _ =>
    exact carries_plain ho hpassed hchar rfl rfl (hclosed hcomment) (hclosed hcomment)
  | quoteEnds _ hcomment hmark _ =>
    exact carries_plain ho hpassed hmark rfl rfl (hclosed hcomment) (hclosed hcomment)
  | limited hidle _ _ _ =>
    exact carries_plain ho hpassed hchar rfl rfl (hclosed hidle.openComment)
      (hclosed hidle.openComment)
  | stopped => cases ho
  | edge hlooks _ _ => exact carries_atBlockEdge hrest hlooks.openComment ho hpassed
  | matched _ _ _ _ hblock _ =>
    cases ho
    exact carries_cutState hblock cur _ _
  | unmatched hlooks _ _ _ _ _ =>
    exact carries_plain ho hpassed hchar rfl rfl (hclosed hlooks.openComment)
      (hclosed hlooks.openComment)
  | nested hlooks _ _ _ =>
    refine carries_plain ho hpassed (marked_blockAt plan s hrest) (cuts_atBlock s _)
      (currentText_atBlock s _) (hclosed hlooks.openComment) ?_
    exact State.topComment_eq_none ((State.openComment_atBlock s _).trans hlooks.openComment)

/-- The current token holds the visible text since the last split. -/
theorem Reaches.since (h : plan.Reaches input s cur) : plan.Since input s cur s.currentText := by
  refine h.induct (motive := fun s cur => plan.Since input s cur s.currentText) .start ?_
  intro s t cur cur' hreach hsince hstep
  obtain ⟨width, rfl⟩ := step_advances hstep
  have hpassed := cur.advance_before width
  cases carries_of_advanced hstep hpassed with
  | kept hcuts htext =>
    rw [htext]
    exact .kept hsince hstep hpassed hcuts
  | splitBefore hcuts hblock htext =>
    rw [htext]
    exact .splitBefore hreach hstep hpassed hcuts hblock
  | splitBehind hcuts hblock htext =>
    rw [htext]
    exact .splitBehind hreach hstep hcuts hblock

end Plan

end DelimiterScan
