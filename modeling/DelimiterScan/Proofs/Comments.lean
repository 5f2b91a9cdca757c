import DelimiterScan.Proofs.Cuts
import DelimiterScan.Proofs.Regions

/-!
# Comments beside tokens

Outside of blocks a scan writes the body of a comment twice, to the list of all comments and to the
current token, and each time text goes to the last comment of the list. Both places agree because
nothing else is written while a comment is open: neither a cut nor a block comes between.
`State.Mirrored` is the invariant that every step keeps (`mirrored_step`). So the list of all
comments is that of the tokens one after the other (`comments_of_scan`).
-/

namespace DelimiterScan

variable {plan : Plan} {input : String} {s t : State} {cur cur' : Cursor} {k : Block}

/-! ## The comments of a buffer -/

namespace TokenBuffer

def comments (b : TokenBuffer) : List String :=
  b.finished.toList.flatMap (·.comments) ++ (b.current.getD {}).comments

theorem flatMap_tokens (b : TokenBuffer) : b.tokens.toList.flatMap (·.comments) = b.comments := by
  unfold tokens comments
  cases b.current with
  | none => simp
  | some token => simp

/-- The token behind the finished ones. -/
theorem getElem?_finished_size (b : TokenBuffer) : b.tokens[b.finished.size]? = b.current := by
  unfold tokens
  cases b.current with
  | none => simp
  | some token => simp

theorem comments_modify (b : TokenBuffer) (f : Token → Token) : (b.modify f).comments =
    b.finished.toList.flatMap (·.comments) ++ (f (b.current.getD {})).comments :=
  rfl

theorem comments_cut (b : TokenBuffer) : b.cut.comments = b.comments := by
  simp [comments, cut]

end TokenBuffer

/-! ## The invariant -/

namespace State

/-- The comments are those of the tokens, and an open one was begun in the current token. -/
structure Mirrored (s : State) : Prop where
  comments : s.comments = s.buffer.comments
  begun : s.nesting = [] → s.openComment ≠ none → (s.buffer.current.getD {}).comments ≠ []

namespace Mirrored

theorem start : Mirrored {} := ⟨rfl, fun _ hopen => absurd rfl hopen⟩

/-- A state with the same comments in the same places, where none is open outside of blocks. -/
theorem congr (h : s.Mirrored) (hcomments : t.comments = s.comments)
    (hbuffer : t.buffer.comments = s.buffer.comments)
    (hopen : t.nesting = [] → t.openComment = none) : t.Mirrored :=
  ⟨by rw [hcomments, hbuffer, h.comments], fun hnesting hsome => absurd (hopen hnesting) hsome⟩

theorem beginComment (h : t.comments = t.buffer.comments) : t.beginComment.Mirrored := by
  constructor
  · show t.comments ++ [""] = _
    rw [h, TokenBuffer.comments, List.append_assoc]
    rfl
  · intro _ _
    exact List.append_ne_nil_of_right_ne_nil _ (List.cons_ne_nil _ _)

theorem addComment (h : s.Mirrored) (hbegun : (s.buffer.current.getD {}).comments ≠ [])
    (text : String) : (s.addComment text).Mirrored := by
  obtain ⟨before, fragment, hlast⟩ := (List.eq_nil_or_concat' _).resolve_left hbegun
  have hcurrent : ((s.buffer.current.getD {}).addComment text).comments =
      before ++ [fragment ++ text] := by
    rw [Token.addComment, hlast, appendToLast_concat]
  constructor
  · show appendToLast s.comments text = _
    rw [h.comments, TokenBuffer.comments, hlast, ← List.append_assoc, appendToLast_concat,
      List.append_assoc, ← hcurrent]
    rfl
  · intro _ _
    show ((s.buffer.current.getD {}).addComment text).comments ≠ []
    rw [hcurrent]
    exact List.append_ne_nil_of_right_ne_nil _ (List.cons_ne_nil _ _)

end Mirrored

end State

/-! ## One step -/

namespace Plan

theorem mirrored_atBlockEdge (h : s.Mirrored) (hopen : s.openComment = none) (cur : Cursor)
    (b : Boundary Block) (c : String) : (atBlockEdge (s.atBlock b) cur b c).state.Mirrored := by
  have hreaction := reaction_atBlockEdge (s.atBlock b) cur b c
  generalize atBlockEdge (s.atBlock b) cur b c = o at hreaction
  cases hreaction with
  | plain => cases b <;> exact h.congr rfl rfl fun _ => hopen
  | cutBefore => exact h.congr rfl s.buffer.comments_cut fun _ => hopen
  | cutBehind => exact h.congr rfl (TokenBuffer.comments_cut _) fun _ => hopen

theorem mirrored_cutState (h : s.Mirrored) (hopen : s.openComment = none) (cur : Cursor)
    (matched : String) (width : Nat) : (plan.cutState s cur matched width).Mirrored := by
  unfold cutState
  dsimp only
  split
  · exact h.congr rfl (TokenBuffer.comments_cut _) fun _ => hopen
  · split
    · refine h.congr rfl ?_ fun _ => hopen
      exact (TokenBuffer.comments_modify _ id).trans (TokenBuffer.comments_cut _)
    · exact h.congr rfl (TokenBuffer.comments_cut _) fun _ => hopen

/-- In a comment: `t` is the state in which the comment at the cursor is open or not any more. -/
theorem mirrored_inComment {b : Boundary Block} {c : String} (h : s.Mirrored)
    (hcomments : t.comments = s.comments) (hbuffer : t.buffer = s.buffer)
    (hopen : b = .none → t = s ∧ s.openComment ≠ none)
    (hclosed : ∀ k, b = .closes k → t.openComment = none) :
    (inComment t cur b c).state.Mirrored := by
  unfold inComment
  dsimp only
  split
  · next hflat =>
    cases b with
    | none =>
      obtain ⟨rfl, hsome⟩ := hopen rfl
      exact h.addComment (h.begun (by simpa using hflat) hsome) c
    | opens k => exact .beginComment (by rw [hcomments, hbuffer, h.comments])
    | closes k => exact h.congr hcomments (by rw [← hbuffer]; rfl) fun _ => hclosed k rfl
  · next hnested =>
    refine h.congr hcomments (by rw [← hbuffer]; rfl) fun hnil => absurd ?_ hnested
    exact List.isEmpty_iff.mpr hnil

/-- A step keeps the comments in both places alike. -/
theorem mirrored_step (h : s.Mirrored) : (plan.step s cur).state.Mirrored := by
  cases hrest : cur.rest with
  | nil =>
    rw [step_of_rest_nil hrest]
    exact h
  | cons c cs =>
    have hreaction := plan.reaction_step s hrest
    generalize plan.step s cur = o at hreaction
    -- Only in a comment is anything written to comments. All other ways lead to a state where none
    -- is open.
    cases hreaction with
    | commentBegins => exact mirrored_inComment h rfl rfl nofun nofun
    | commentGoesOn hcomment =>
      exact mirrored_inComment h rfl rfl (fun _ => ⟨rfl, by simp [hcomment]⟩) nofun
    | commentEnds => exact mirrored_inComment h rfl rfl nofun fun _ _ => rfl
    | quoteBegins hidle => exact h.congr rfl rfl fun _ => hidle.openComment
    | quoteGoesOn _ hcomment => exact h.congr rfl rfl fun _ => hcomment
    | quoteEnds _ hcomment => exact h.congr rfl rfl fun _ => hcomment
    | limited hidle => exact h.congr rfl rfl fun _ => hidle.openComment
    | stopped hlooks =>
      cases plan.blockAt s cur <;> exact h.congr rfl rfl fun _ => hlooks.openComment
    | edge hlooks => exact mirrored_atBlockEdge h hlooks.openComment cur _ _
    | matched hlooks => exact mirrored_cutState h hlooks.openComment cur _ _
    | unmatched hlooks => exact h.congr rfl rfl fun _ => hlooks.openComment
    | nested hlooks =>
      cases plan.blockAt s cur <;> exact h.congr rfl rfl fun _ => hlooks.openComment

theorem Visits.mirrored (h : plan.Visits input s cur) : s.Mirrored := by
  have hreached : ∀ {s cur}, plan.Reaches input s cur → s.Mirrored := by
    intro s cur hreach
    refine hreach.induct (motive := fun s _ => s.Mirrored) .start ?_
    intro s t cur cur' _ hmirrored hstep
    have hnext : (plan.step s cur).state.Mirrored := mirrored_step hmirrored
    rwa [hstep] at hnext
  cases h with
  | passing h => exact hreached h
  | last h hend =>
    have hlast : (plan.step _ cur).state.Mirrored := mirrored_step (hreached h)
    rwa [hend] at hlast

end Plan

/-! ## The open comment -/

/-- `fragment` is the last comment of all, behind `earlier`, and the last one of the token behind
the last cut, there behind `before`. -/
structure State.Fragment (s : State) (earlier before : List String) (fragment : String) : Prop where
  all : s.comments = earlier ++ [fragment]
  current : ∃ token, s.buffer.tokens[s.cuts.size]? = some token ∧
    token.comments = before ++ [fragment]

/-- Text that is added to a comment goes to the fragment in both places. -/
theorem State.Fragment.addComment {earlier before : List String} {fragment : String}
    (h : s.Fragment earlier before fragment) (hfinished : s.buffer.finished.size = s.cuts.size)
    (text : String) : (s.addComment text).Fragment earlier before (fragment ++ text) := by
  obtain ⟨hall, token, hcurrent, hlast⟩ := h
  rw [← hfinished, TokenBuffer.getElem?_finished_size] at hcurrent
  constructor
  · show appendToLast s.comments text = _
    rw [hall, appendToLast_concat]
  · refine ⟨token.addComment text, ?_, ?_⟩
    · show (s.buffer.modify (·.addComment text)).tokens[s.cuts.size]? = _
      rw [← hfinished, ← TokenBuffer.finished_modify s.buffer (·.addComment text),
        TokenBuffer.getElem?_finished_size, TokenBuffer.current_modify, hcurrent]
      rfl
    · show appendToLast token.comments text = _
      rw [hlast, appendToLast_concat]

namespace Plan

/-- While a comment is open outside of blocks, its fragment is there in both places. -/
theorem exists_fragment_of_visits (h : plan.Visits input s cur) (hnesting : s.nesting = [])
    (hopen : s.openComment ≠ none) :
    ∃ earlier before fragment, s.Fragment earlier before fragment := by
  have hbegun := h.mirrored.begun hnesting hopen
  cases hcurrent : s.buffer.current with
  | none =>
    rw [hcurrent] at hbegun
    exact absurd rfl hbegun
  | some token =>
    rw [hcurrent] at hbegun
    obtain ⟨before, fragment, hlast⟩ := (List.eq_nil_or_concat' _).resolve_left hbegun
    rw [Option.getD_some] at hlast
    have hall : s.comments =
        s.buffer.finished.toList.flatMap (·.comments) ++ before ++ [fragment] := by
      rw [h.mirrored.comments, TokenBuffer.comments, hcurrent, Option.getD_some, hlast,
        List.append_assoc]
    refine ⟨_, before, fragment, hall, token, ?_, hlast⟩
    rw [← finished_of_visits h, TokenBuffer.getElem?_finished_size, hcurrent]

/-- A step in an open comment outside of blocks adds its character to the fragment in both places,
or ends the comment and leaves the fragment alone. -/
theorem fragment_step {earlier before : List String} {fragment : String}
    (h : s.Fragment earlier before fragment) (hfinished : s.buffer.finished.size = s.cuts.size)
    (hnesting : s.nesting = []) (hopen : s.openComment = some k)
    (hstep : plan.step s cur = .advanced t cur') :
    (t.openComment = none ∧ t.Fragment earlier before fragment) ∨
      ∃ c cs, cur.rest = c :: cs ∧ t.openComment = some k ∧
        t.Fragment earlier before (fragment ++ c.toString) := by
  obtain ⟨c, cs, hrest, hreaction⟩ := exists_reaction hstep
  generalize ho : Outcome.advanced t cur' = o at hreaction
  have hflat : s.nesting.isEmpty = true := List.isEmpty_iff.mpr hnesting
  have hsome : ∀ {p : Prop}, s.openComment = none → p := by
    intro p hnone
    rw [hopen] at hnone
    cases hnone
  cases hreaction with
  | commentGoesOn =>
    rw [inComment, if_pos hflat] at ho
    cases ho
    exact .inr ⟨c, cs, hrest, hopen, h.addComment hfinished c.toString⟩
  | commentEnds =>
    rw [inComment, if_pos hflat] at ho
    cases ho
    exact .inl ⟨rfl, h.all, h.current⟩
  | commentBegins _ hnone => exact hsome hnone
  | quoteBegins hidle => exact hsome hidle.openComment
  | quoteGoesOn _ hnone => exact hsome hnone
  | quoteEnds _ hnone => exact hsome hnone
  | limited hidle => exact hsome hidle.openComment
  | stopped hlooks => exact hsome hlooks.openComment
  | edge hlooks => exact hsome hlooks.openComment
  | matched hlooks => exact hsome hlooks.openComment
  | unmatched hlooks => exact hsome hlooks.openComment
  | nested hlooks => exact hsome hlooks.openComment

/-- In every state of a scan the list of all comments is that of the tokens one after the other.
While a comment is open outside of blocks, the current token is there and its last comment is the
fragment that further text goes to, in both places. So a result has the comments of its tokens. -/
theorem comments_of_scan {options : Options} {delims : List Delimiter}
    (hmake : Plan.make options delims = .ok plan) (input : String) :
    (∀ s cur, plan.Visits input s cur →
      s.comments = s.buffer.tokens.toList.flatMap (·.comments) ∧
      (s.nesting = [] → s.openComment ≠ none →
        ∃ earlier before fragment, s.Fragment earlier before fragment)) ∧
    (∀ s cur t cur', plan.Reaches input s cur → s.nesting = [] →
      plan.step s cur = .advanced t cur' → ∀ k ∈ s.openComment, ∀ earlier before fragment,
      s.Fragment earlier before fragment →
      (t.openComment = none ∧ t.Fragment earlier before fragment) ∨
        ∃ c cs, cur.rest = c :: cs ∧ t.openComment = some k ∧
          t.Fragment earlier before (fragment ++ c.toString)) ∧
    ∀ r, scan input options delims = .ok r →
      r.comments = r.tokens.toList.flatMap (·.comments) := by
  refine ⟨fun s cur h => ⟨?_, exists_fragment_of_visits h⟩, ?_, ?_⟩
  · rw [h.mirrored.comments, TokenBuffer.flatMap_tokens]
  · intro s cur t cur' hreach hnesting hstep k hopen earlier before fragment h
    exact fragment_step h hreach.aligned.finished hnesting hopen hstep
  · intro r hr
    obtain ⟨s, cur, t, hreach, hend, hfinal⟩ := exists_reaches_finished plan input
    have hlast : t.Mirrored := (Visits.last hreach hend).mirrored
    rw [scan_of_make hmake, hfinal, State.verdict_eq_ok_iff] at hr
    obtain ⟨-, rfl⟩ := hr
    show t.comments = t.buffer.ensure.tokens.toList.flatMap (·.comments)
    rw [TokenBuffer.flatMap_tokens, hlast.comments]
    rfl

def inSecondComment : State where
  openComment := some ⟨"/*", "*/"⟩
  comments := ["1", "2"]
  buffer := ⟨#[], some ⟨"a", ["1", "2"]⟩⟩

theorem comments_of_two_in_token :
    Plan.make {} [.literal ","] = .ok ⟨{}, [.literal ","], []⟩ ∧
    Plan.Reaches ⟨{}, [.literal ","], []⟩ "/*1*/a/*23" inSecondComment ⟨"/*1*/a/*2", ['3']⟩ ∧
    inSecondComment.Fragment ["1"] ["1"] "2" ∧
    (Plan.step ⟨{}, [.literal ","], []⟩ inSecondComment ⟨"/*1*/a/*2", ['3']⟩).state.Fragment
      ["1"] ["1"] "23" ∧
    ∃ r, scan "/*1*/a/*23" {} [.literal ","] = .ok r ∧ r.comments = ["1", "23"] ∧
      r.comments = r.tokens.toList.flatMap (·.comments) := by
  have hbegins : Plan.Reaches ⟨{}, [.literal ","], []⟩ "/*1*/a/*23"
      { openComment := some ⟨"/*", "*/"⟩, comments := ["1"], buffer := ⟨#[], some ⟨"", ["1"]⟩⟩ }
      ⟨"/*1", ['*', '/', 'a', '/', '*', '2', '3']⟩ :=
    (Reaches.start.step rfl).step rfl
  have hletter : Plan.Reaches ⟨{}, [.literal ","], []⟩ "/*1*/a/*23"
      { comments := ["1"], buffer := ⟨#[], some ⟨"a", ["1"]⟩⟩ }
      ⟨"/*1*/a", ['/', '*', '2', '3']⟩ :=
    (hbegins.step rfl).step rfl
  have hreach : Plan.Reaches ⟨{}, [.literal ","], []⟩ "/*1*/a/*23" inSecondComment
      ⟨"/*1*/a/*2", ['3']⟩ :=
    (hletter.step rfl).step rfl
  have hfragment : inSecondComment.Fragment ["1"] ["1"] "2" := ⟨rfl, _, rfl, rfl⟩
  have hmake : Plan.make {} [.literal ","] = .ok ⟨{}, [.literal ","], []⟩ := rfl
  obtain ⟨-, hstep, hresult⟩ := comments_of_scan hmake "/*1*/a/*23"
  refine ⟨hmake, hreach, hfragment, ?_, _, rfl, rfl, hresult _ rfl⟩
  rcases hstep _ _ _ _ hreach rfl rfl _ rfl _ _ _ hfragment with ⟨hnone, -⟩ | ⟨c, cs, hc, -, h⟩
  · cases hnone
  · cases hc
    exact h

end Plan

end DelimiterScan
