import DelimiterScan.Proofs.Resolve
import DelimiterScan.Proofs.Spans
import DelimiterScan.Proofs.Widths
import Mathlib.Data.List.Forall2

/-!
# Nothing is lost

Every step of a scan passes one span, and writes its text to the one place that its kind names.
`Tiled` is the invariant: the spans so far cover the text before the cursor, and cuts, tokens and
comments of the state are those that the spans say. A step extends it by a span (`tiled_step`), so
it holds along every run, and the result of a scan is tiled (`exists_tiles`).
-/

namespace DelimiterScan

open DelimiterScan.Span

variable {s s' t : State} {cur cur' : Cursor} {plan : Plan} {xs : List Span} {piece input : String}

namespace State

/-- The texts of the tokens, with the current one, begun or not. -/
def pieces (s : State) : List String :=
  s.buffer.finished.toList.map (·.text) ++ [(s.buffer.current.getD {}).text]

/-- The open comment, if it is not inside a block. -/
def topComment (s : State) : Option Block := if s.nesting = [] then s.openComment else none

theorem topComment_eq_none (h : s.openComment = none) : s.topComment = none := by
  unfold topComment
  split
  · exact h
  · rfl

theorem pieces_addText (s : State) (text : String) :
    (s.addText text).pieces = appendToLast s.pieces text := by
  unfold pieces
  rw [appendToLast_concat]
  rfl

theorem pieces_cut (s : State) (matched : Option String) :
    (s.cut matched).pieces = s.pieces ++ [""] := by
  simp [pieces, cut]

theorem pieces_beginComment (s : State) : s.beginComment.pieces = s.pieces := by
  simp [pieces, beginComment, Token.beginComment]

theorem pieces_addComment (s : State) (text : String) : (s.addComment text).pieces = s.pieces := by
  simp [pieces, addComment, Token.addComment]

theorem texts_ensureToken (s : State) :
    s.ensureToken.buffer.tokens.toList.map (·.text) = s.pieces := by
  simp [pieces, ensureToken, TokenBuffer.ensure]

/-- The same tokens up to what is open, comments, cuts and stop. -/
structure Keeps (s t : State) : Prop where
  pieces : t.pieces = s.pieces
  comments : t.comments = s.comments
  cutsAt : t.cutsAt = s.cutsAt
  stop : t.stop = s.stop

theorem keeps_refl (s : State) : Keeps s s := ⟨rfl, rfl, rfl, rfl⟩

theorem keeps_ensureToken (s : State) : Keeps s s.ensureToken := ⟨rfl, rfl, rfl, rfl⟩

theorem keeps_atBlock (s : State) (b : Boundary Block) : Keeps s (s.atBlock b) := by
  cases b <;> exact ⟨rfl, rfl, rfl, rfl⟩

theorem openComment_atBlock (s : State) (b : Boundary Block) :
    (s.atBlock b).openComment = s.openComment := by
  cases b <;> rfl

/-- What `t` has more than `s` is text of tokens. With delimiters it goes to the last token. -/
structure Writes (plan : Plan) (s t : State) (text : String) : Prop where
  pieces : plan.delims ≠ [] → t.pieces = appendToLast s.pieces text
  joined : plan.delims = [] → String.join t.pieces = String.join s.pieces ++ text
  comments : t.comments = s.comments
  cutsAt : t.cutsAt = s.cutsAt
  stop : t.stop = s.stop

end State

theorem join_appendToLast (pieces : List String) (text : String) :
    String.join (appendToLast pieces text) = String.join pieces ++ text := by
  induction pieces with
  | nil => simp [appendToLast]
  | cons piece pieces ih =>
    cases pieces with
    | nil => simp [appendToLast, String.join_cons]
    | cons next pieces =>
      have hlast : appendToLast (piece :: next :: pieces) text =
          piece :: appendToLast (next :: pieces) text := rfl
      rw [hlast, String.join_cons, ih]
      simp only [String.join_cons, String.append_assoc]

namespace State

theorem Keeps.writes (h : Keeps s t) (plan : Plan) (text : String) :
    Writes plan s (t.addText text) text where
  pieces _ := by rw [pieces_addText, h.pieces]
  joined _ := by rw [pieces_addText, join_appendToLast, h.pieces]
  comments := h.comments
  cutsAt := h.cutsAt
  stop := h.stop

/-- Without delimiters, a cut may come before the text. -/
theorem Keeps.writes_behind_cut (h : Keeps s t) (hdelims : plan.delims = []) (text : String) :
    Writes plan s ((t.cut none).addText text) text where
  pieces hne := absurd hdelims hne
  joined _ := by
    rw [pieces_addText, join_appendToLast, pieces_cut, h.pieces]
    simp [String.join_append]
  comments := h.comments
  cutsAt := h.cutsAt
  stop := h.stop

/-- Without delimiters, a cut may follow the text. -/
theorem Keeps.writes_before_cut (h : Keeps s t) (hdelims : plan.delims = []) (text : String) :
    Writes plan s ((t.addText text).cut none) text where
  pieces hne := absurd hdelims hne
  joined _ := by
    rw [pieces_cut, pieces_addText, String.join_append, join_appendToLast, h.pieces]
    simp
  comments := h.comments
  cutsAt := h.cutsAt
  stop := h.stop

end State

namespace Plan

variable {b : Boundary Block} {c : String}

theorem inComment_nested (h : s.nesting ≠ []) :
    inComment s cur b c = .plain s cur (b.marker?.getD c) := by
  have hne : ¬ s.nesting.isEmpty = true := by simpa using h
  simp only [inComment, if_neg hne]

/-- The marker of the block at the cursor stands there, or else a character does. -/
theorem marked_blockAt (plan : Plan) (s : State) {cs : List Char} {c : Char}
    (hrest : cur.rest = c :: cs) :
    Boundary.marked cur.rest ((plan.blockAt s cur).marker?.getD c.toString) :=
  Boundary.marked_getD hrest fun _ => Boundary.marked_ofBlocks

/-- A match without text is as wide as a character, and so is the step at least. -/
theorem advance_matchWidth {cs : List Char} {c : Char} (hrest : cur.rest = c :: cs)
    (matched : String) :
    cur.advance (matchWidth matched c.toString) = cur.advance matched.utf8ByteSize := by
  by_cases hempty : matched = ""
  · obtain ⟨before, rest⟩ := cur
    subst hempty hrest
    have hsplit : Text.splitBytes 1 (c :: cs) = ([c], cs) := by
      rw [Text.splitBytes, Nat.sub_eq_zero_of_le c.utf8Size_pos, Text.splitBytes_zero]
    rw [matchWidth, if_pos rfl, Cursor.advance_char]
    simp only [Cursor.advance, String.utf8ByteSize_empty, Nat.zero_max, hsplit, Char.toString,
      String.singleton_eq_ofList]
  · rw [matchWidth, if_neg hempty]

theorem inComment_top (h : s.nesting = []) :
    inComment s cur b c = .advanced
      (match b with
        | .opens _ => s.beginComment
        | .closes _ => s
        | .none => s.addComment c)
      (cur.advance (b.marker?.getD c).utf8ByteSize) := by
  have hnil : s.nesting.isEmpty = true := by simpa using h
  cases b <;> simp only [inComment, if_pos hnil, Boundary.marker?]

end Plan

/-! ## What a cut passes

A cut at a match passes the text from the offset of the match up to the first character boundary
that is as far away as the match is long. The text of the match need not be the text that is passed:
case may differ, and a predicate may answer with any text. -/

/-- The span of a cut begins at the offset of the match, and ends at the first boundary that is a
byte and the length of the match away, or at the end of the input. -/
def SplitOf (input : String) (m x : Nat × String) : Prop :=
  m.1 = x.1 ∧ IsLeast {e | Text.IsBoundary input e ∧
    min (m.1 + max m.2.utf8ByteSize 1) input.utf8ByteSize ≤ e} (x.1 + x.2.utf8ByteSize)

/-- A cut at the match `m` passes the text `piece` of the input. -/
structure Consumed (input : String) (m : Nat × String) (piece : String) : Prop where
  slice : ∃ before after, input = before ++ piece ++ after ∧ before.utf8ByteSize = m.1
  ends : SplitOf input m (m.1, piece)

/-- The step at a match passes what the match consumes. -/
theorem Plan.consumed_matchWidth {cur : Cursor} {c : Char} {cs : List Char}
    (hrest : cur.rest = c :: cs) (matched : String) :
    Consumed cur.text (cur.offset, matched) (cur.passed (matchWidth matched c.toString)) := by
  constructor
  · refine ⟨cur.before, String.ofList (cur.advance (matchWidth matched c.toString)).rest, ?_, rfl⟩
    exact (cur.advance_text (matchWidth matched c.toString)).symm
  · have hleast := Cursor.isLeast_offset_advance cur matched.utf8ByteSize
    rw [← advance_matchWidth hrest matched, Cursor.offset_advance] at hleast
    exact ⟨rfl, hleast⟩

/-! ## The invariant -/

/-- The spans so far are those of the text before the cursor, and the state is what they say. -/
structure Tiled (plan : Plan) (s : State) (cur : Cursor) (xs : List Span) : Prop where
  laid : Laid plan.options.comments xs s.topComment
  covers : cover xs = cur.before
  splits : List.Forall₂ (SplitOf cur.text) s.cutsAt.toList (splitsAt 0 xs)
  pieces : plan.delims ≠ [] → s.pieces = tokenTexts plan.options.preserveDelimiters xs
  joined : plan.delims = [] → splitsAt 0 xs = [] ∧ String.join s.pieces = plainText xs
  comments : s.comments = commentTexts xs
  stop : s.stop = none

theorem tiled_start (plan : Plan) (input : String) : Tiled plan {} (.ofText input) [] where
  laid := .nil
  covers := rfl
  splits := .nil
  pieces _ := rfl
  joined _ := ⟨rfl, rfl⟩
  comments := rfl
  stop := rfl

theorem covers_concat {x : Span} (h : cover xs = cur.before) (width : Nat)
    (hx : x.text = cur.passed width) : cover (xs ++ [x]) = (cur.advance width).before := by
  rw [cover_concat, h, hx, Cursor.advance_before]

/-- A cut at a delimiter. -/
theorem cutState_spec (plan : Plan) (hopen : s.openComment = none) (cur : Cursor)
    (matched : String) (width : Nat) :
    (plan.cutState s cur matched width).topComment = none ∧
      (plan.cutState s cur matched width).comments = s.comments ∧
      (plan.cutState s cur matched width).stop = s.stop ∧
      (plan.cutState s cur matched width).cutsAt = s.cutsAt.push (cur.offset, matched) ∧
      (plan.cutState s cur matched width).pieces =
        (if plan.options.preserveDelimiters then Role.last else .gap).add s.pieces
          (cur.passed width) := by
  have hpieces : (s.ensureToken.noteMatch cur.offset matched).pieces = s.pieces := rfl
  unfold Plan.cutState
  dsimp only
  split
  · refine ⟨State.topComment_eq_none hopen, rfl, rfl, rfl, ?_⟩
    rw [State.pieces_cut, State.pieces_addText, hpieces]
    rfl
  · split
    · refine ⟨State.topComment_eq_none hopen, rfl, rfl, rfl, ?_⟩
      rw [(State.keeps_ensureToken _).pieces, State.pieces_cut, hpieces]
      rfl
    · refine ⟨State.topComment_eq_none hopen, rfl, rfl, rfl, ?_⟩
      rw [State.pieces_cut, hpieces]
      rfl

namespace Tiled

theorem snoc_text (h : Tiled plan s cur xs) (hopen : s.topComment = none)
    (hopen' : s'.topComment = none) (hmark : Boundary.marked cur.rest piece)
    (hwrites : State.Writes plan s s' piece) :
    Tiled plan s' (cur.advance piece.utf8ByteSize) (xs ++ [⟨.text, piece⟩]) := by
  obtain ⟨hne, hbegins⟩ := Boundary.marked_iff.mp hmark
  have hsplits : splitsAt 0 (xs ++ [⟨.text, piece⟩]) = splitsAt 0 xs := by
    simp [splitsAt_concat]
  refine ⟨?_, ?_, ?_, ?_, ?_, ?_, ?_⟩
  · rw [hopen']
    exact .text (hopen ▸ h.laid) hne
  · exact covers_concat h.covers _ (Cursor.passed_of_begins hne hbegins).symm
  · rw [hsplits, hwrites.cutsAt, Cursor.advance_text]
    exact h.splits
  · intro hdelims
    rw [hwrites.pieces hdelims, h.pieces hdelims, tokenTexts_concat]
    rfl
  · intro hdelims
    obtain ⟨hnone, hjoined⟩ := h.joined hdelims
    rw [hsplits, hwrites.joined hdelims, hjoined, plainText_concat]
    exact ⟨hnone, rfl⟩
  · rw [hwrites.comments, h.comments, commentTexts_concat]
    rfl
  · rw [hwrites.stop, h.stop]

/-- A span of a comment changes the comments, and nothing else that spans say. -/
theorem snoc_aside {kind : SpanKind} (h : Tiled plan s cur xs)
    (hkind : kind = .opening ∨ kind = .body ∨ kind = .closing)
    (hmark : Boundary.marked cur.rest piece)
    (hlaid : Laid plan.options.comments (xs ++ [⟨kind, piece⟩]) s'.topComment)
    (hcomments : s'.comments = commentTexts (xs ++ [⟨kind, piece⟩]))
    (hpieces : s'.pieces = s.pieces) (hcutsAt : s'.cutsAt = s.cutsAt) (hstop : s'.stop = s.stop) :
    Tiled plan s' (cur.advance piece.utf8ByteSize) (xs ++ [⟨kind, piece⟩]) := by
  obtain ⟨hne, hbegins⟩ := Boundary.marked_iff.mp hmark
  have hsplits : splitsAt 0 (xs ++ [⟨kind, piece⟩]) = splitsAt 0 xs := by
    rcases hkind with rfl | rfl | rfl <;> simp [splitsAt_concat]
  refine ⟨hlaid, ?_, ?_, ?_, ?_, hcomments, ?_⟩
  · exact covers_concat h.covers _ (Cursor.passed_of_begins hne hbegins).symm
  · rw [hsplits, hcutsAt, Cursor.advance_text]
    exact h.splits
  · intro hdelims
    rw [hpieces, h.pieces hdelims, tokenTexts_concat]
    rcases hkind with rfl | rfl | rfl <;> rfl
  · intro hdelims
    obtain ⟨hnone, hjoined⟩ := h.joined hdelims
    rw [hsplits, hpieces, hjoined, plainText_concat]
    rcases hkind with rfl | rfl | rfl <;> simp [hnone]
  · rw [hstop, h.stop]

theorem snoc_split {matched : String} {width : Nat} (h : Tiled plan s cur xs)
    (hdelims : plan.delims ≠ []) (hopen : s.openComment = none) (hrest : cur.rest ≠ [])
    (hwidth : cur.advance width = cur.advance matched.utf8ByteSize) :
    Tiled plan (plan.cutState s cur matched width) (cur.advance width)
      (xs ++ [⟨.split, cur.passed width⟩]) := by
  obtain ⟨hcomment, hcomments, hstop, hcutsAt, hpieces⟩ :=
    cutState_spec plan hopen cur matched width
  have hoffset : (cover xs).utf8ByteSize = cur.offset := by
    rw [h.covers]
    rfl
  refine ⟨?_, ?_, ?_, ?_, ?_, ?_, ?_⟩
  · rw [hcomment]
    exact .split (State.topComment_eq_none hopen ▸ h.laid) (Cursor.passed_ne_empty width hrest)
  · exact covers_concat h.covers width rfl
  · rw [hcutsAt, Array.toList_push, splitsAt_concat, if_pos rfl, Cursor.advance_text, Nat.zero_add,
      hoffset]
    -- The span ends where the width of the match says, also where the match is empty.
    refine List.rel_append h.splits (.cons ⟨rfl, ?_⟩ .nil)
    have hleast := Cursor.isLeast_offset_advance cur matched.utf8ByteSize
    rwa [← hwidth, Cursor.offset_advance] at hleast
  · intro _
    rw [hpieces, h.pieces hdelims, tokenTexts_concat]
    cases plan.options.preserveDelimiters <;> rfl
  · intro hnone
    exact absurd hnone hdelims
  · rw [hcomments, h.comments, commentTexts_concat]
    rfl
  · rw [hstop, h.stop]

theorem exists_of_plain (h : Tiled plan s cur xs)
    (hstep : Outcome.advanced s' cur' = .plain t cur piece) (hkeeps : State.Keeps s t)
    (hopen : s.topComment = none) (hopen' : t.topComment = none)
    (hmark : Boundary.marked cur.rest piece) : ∃ x, Tiled plan s' cur' (xs ++ [x]) := by
  cases hstep
  exact ⟨⟨.text, piece⟩, h.snoc_text hopen hopen' hmark (hkeeps.writes plan piece)⟩

/-! ## One step -/

theorem exists_of_comment_begin {k : Block} {c : String} (h : Tiled plan s cur xs)
    (hstep : Outcome.advanced s' cur' = Plan.inComment t cur (.opens k) c)
    (hkeeps : State.Keeps s t) (hopen : s.openComment = none) (hcomment : t.openComment = some k)
    (hk : k ∈ plan.options.comments) (hmark : Boundary.marked cur.rest k.start) :
    ∃ x, Tiled plan s' cur' (xs ++ [x]) := by
  have hnone := State.topComment_eq_none hopen
  -- Outside of blocks the marker is left out; inside it is text like any other.
  by_cases htop : t.nesting = []
  · rw [Plan.inComment_top htop] at hstep
    cases hstep
    refine ⟨⟨.opening, k.start⟩, h.snoc_aside (.inl rfl) hmark ?_ ?_ ?_ hkeeps.cutsAt hkeeps.stop⟩
    · have hopened : t.beginComment.topComment = some k := (if_pos htop).trans hcomment
      rw [hopened]
      exact .opening (hnone ▸ h.laid) hk (Boundary.marked_iff.mp hmark).1
    · show t.comments ++ [""] = _
      rw [commentTexts_concat, hkeeps.comments, h.comments]
      exact (List.tail_append_of_ne_nil (gather_ne_nil _ _)).symm
    · rw [State.pieces_beginComment, hkeeps.pieces]
  · rw [Plan.inComment_nested htop] at hstep
    exact h.exists_of_plain hstep hkeeps hnone (if_neg htop) hmark

theorem exists_of_comment_body {k : Block} {c : String} (h : Tiled plan s cur xs)
    (hstep : Outcome.advanced s' cur' = Plan.inComment s cur .none c)
    (hcomment : s.openComment = some k) (hmark : Boundary.marked cur.rest c) :
    ∃ x, Tiled plan s' cur' (xs ++ [x]) := by
  by_cases htop : s.nesting = []
  · rw [Plan.inComment_top htop] at hstep
    cases hstep
    have hopened : s.topComment = some k := (if_pos htop).trans hcomment
    have hlaid : Laid plan.options.comments xs (some k) := hopened ▸ h.laid
    refine ⟨⟨.body, c⟩, h.snoc_aside (.inr (.inl rfl)) hmark ?_ ?_ ?_ rfl rfl⟩
    · have hstill : (s.addComment c).topComment = some k := hopened
      rw [hstill]
      exact .body hlaid (Boundary.marked_iff.mp hmark).1
    · show appendToLast s.comments c = _
      rw [commentTexts_concat, h.comments]
      exact (tail_appendToLast hlaid.commentTexts_ne_nil c).symm
    · exact State.pieces_addComment s c
  · have hnone : s.topComment = none := if_neg htop
    rw [Plan.inComment_nested htop] at hstep
    exact h.exists_of_plain hstep (State.keeps_refl s) hnone hnone hmark

theorem exists_of_comment_end {k : Block} {c : String} (h : Tiled plan s cur xs)
    (hstep : Outcome.advanced s' cur' = Plan.inComment t cur (.closes k) c)
    (hkeeps : State.Keeps s t) (hnesting : t.nesting = s.nesting)
    (hcomment : s.openComment = some k) (hclosed : t.openComment = none)
    (hmark : Boundary.marked cur.rest k.finish) :
    ∃ x, Tiled plan s' cur' (xs ++ [x]) := by
  have hnone := State.topComment_eq_none hclosed
  by_cases htop : t.nesting = []
  · rw [Plan.inComment_top htop] at hstep
    cases hstep
    have hopened : s.topComment = some k := (if_pos (hnesting ▸ htop)).trans hcomment
    refine ⟨⟨.closing, k.finish⟩, h.snoc_aside (.inr (.inr rfl)) hmark ?_ ?_ hkeeps.pieces
      hkeeps.cutsAt hkeeps.stop⟩
    · rw [hnone]
      exact .closing (hopened ▸ h.laid) (Boundary.marked_iff.mp hmark).1
    · rw [commentTexts_concat, hkeeps.comments, h.comments]
      rfl
  · have hopen : s.topComment = none := if_neg (hnesting ▸ htop)
    rw [Plan.inComment_nested htop] at hstep
    exact h.exists_of_plain hstep hkeeps hopen hnone hmark

theorem exists_of_edge {c : Char} {cs : List Char} (h : Tiled plan s cur xs)
    (hrest : cur.rest = c :: cs) (hdelims : plan.delims = []) (hopen : s.openComment = none)
    (hstep : Outcome.advanced s' cur' = Plan.atBlockEdge (s.atBlock (plan.blockAt s cur)) cur
      (plan.blockAt s cur) c.toString) :
    ∃ x, Tiled plan s' cur' (xs ++ [x]) := by
  have hmark := Plan.marked_blockAt plan s hrest
  have hkeeps := State.keeps_atBlock s (plan.blockAt s cur)
  have hopen' := (State.openComment_atBlock s (plan.blockAt s cur)).trans hopen
  generalize plan.blockAt s cur = b at hstep hmark hkeeps hopen'
  have hsnoc : ∀ s', s'.openComment = none →
      State.Writes plan s s' (b.marker?.getD c.toString) →
      ∃ x, Tiled plan s' (cur.advance (b.marker?.getD c.toString).utf8ByteSize) (xs ++ [x]) :=
    fun s' hopen' hwrites => ⟨_, h.snoc_text (State.topComment_eq_none hopen)
      (State.topComment_eq_none hopen') hmark hwrites⟩
  have hreaction := Plan.reaction_atBlockEdge (s.atBlock b) cur b c.toString
  generalize Plan.atBlockEdge (s.atBlock b) cur b c.toString = o at hstep hreaction
  cases hreaction with
  | plain =>
    cases hstep
    exact hsnoc _ hopen' (hkeeps.writes plan _)
  | cutBefore =>
    cases hstep
    exact hsnoc _ hopen' (hkeeps.writes_behind_cut hdelims _)
  | cutBehind =>
    cases hstep
    exact hsnoc _ hopen' (hkeeps.writes_before_cut hdelims _)

end Tiled

/-- A step extends the tiling by the span that it passes. -/
theorem tiled_step (h : Tiled plan s cur xs) (hstep : plan.step s cur = .advanced s' cur') :
    ∃ x, Tiled plan s' cur' (xs ++ [x]) := by
  obtain ⟨c, cs, hrest, hreaction⟩ := Plan.exists_reaction hstep
  have hchar : Boundary.marked cur.rest c.toString := Boundary.marked_toString hrest
  -- All but comments and cuts at delimiters pass text, so the cases differ in the state they add
  -- it to.
  generalize ho : Outcome.advanced s' cur' = o at hreaction
  cases hreaction with
  | commentBegins _ hcomment hk hmark =>
    exact h.exists_of_comment_begin ho ⟨rfl, rfl, rfl, rfl⟩ hcomment rfl hk hmark
  | commentGoesOn hcomment _ => exact h.exists_of_comment_body ho hcomment hchar
  | commentEnds _ hcomment hmark =>
    exact h.exists_of_comment_end ho ⟨rfl, rfl, rfl, rfl⟩ rfl hcomment rfl hmark
  | quoteBegins hidle _ hmark =>
    have hnone := State.topComment_eq_none hidle.openComment
    exact h.exists_of_plain ho ⟨rfl, rfl, rfl, rfl⟩ hnone hnone hmark
  | quoteGoesOn _ hcomment _ =>
    have hnone := State.topComment_eq_none hcomment
    exact h.exists_of_plain ho (State.keeps_refl s) hnone hnone hchar
  | quoteEnds _ hcomment hmark _ =>
    have hnone := State.topComment_eq_none hcomment
    exact h.exists_of_plain ho ⟨rfl, rfl, rfl, rfl⟩ hnone hnone hmark
  | limited hidle _ _ _ =>
    have hnone := State.topComment_eq_none hidle.openComment
    exact h.exists_of_plain ho (State.keeps_refl s) hnone hnone hchar
  | stopped => cases ho
  | edge hlooks _ hdelims => exact h.exists_of_edge hrest hdelims hlooks.openComment ho
  | matched hlooks _ hdelims _ _ _ =>
    cases ho
    exact ⟨_, h.snoc_split hdelims hlooks.openComment (by simp [hrest])
      (Plan.advance_matchWidth hrest _)⟩
  | unmatched hlooks _ _ _ _ _ =>
    have hnone := State.topComment_eq_none hlooks.openComment
    exact h.exists_of_plain ho (State.keeps_ensureToken s) hnone hnone hchar
  | nested hlooks _ _ _ =>
    have hnone := State.topComment_eq_none hlooks.openComment
    have hnone' : (s.atBlock (plan.blockAt s cur)).topComment = none :=
      State.topComment_eq_none ((State.openComment_atBlock s _).trans hlooks.openComment)
    have hmark := Plan.marked_blockAt plan s hrest
    exact h.exists_of_plain ho (State.keeps_atBlock s _) hnone hnone' hmark

/-! ## Whole runs -/

theorem exists_tiled (h : plan.Reaches input s cur) : ∃ xs, Tiled plan s cur xs := by
  refine h.induct (motive := fun s cur => ∃ xs, Tiled plan s cur xs) ⟨[], tiled_start plan input⟩ ?_
  rintro s s' cur cur' - ⟨xs, htiled⟩ hstep
  obtain ⟨x, htiled'⟩ := tiled_step htiled hstep
  exact ⟨xs ++ [x], htiled'⟩

/-- A scan ends at the end of its input, or is stopped. -/
theorem finished_spec (h : plan.step s cur = .finished s') :
    s'.pieces = s.pieces ∧ s'.comments = s.comments ∧ s'.cutsAt = s.cutsAt ∧
      ((cur.rest = [] ∧ s'.stop = s.stop) ∨
        ∃ matched, s'.stop = some ⟨matched, cur.offset, String.ofList cur.rest⟩) := by
  cases hrest : cur.rest with
  | nil =>
    rw [Plan.step_of_rest_nil hrest] at h
    cases h
    exact ⟨rfl, rfl, rfl, .inl ⟨rfl, rfl⟩⟩
  | cons c cs =>
    obtain ⟨matched, -, -, -, rfl⟩ := Plan.stopped_of_finished hrest h
    have hkeeps := State.keeps_atBlock s (plan.blockAt s cur)
    refine ⟨hkeeps.pieces, hkeeps.comments, hkeeps.cutsAt, .inr ⟨matched, ?_⟩⟩
    rw [hrest]

namespace ScanResult

/-- The bytes that are scanned: all of them, or those before the stop. -/
def scannedBytes (r : ScanResult) (input : String) : Nat :=
  match r.stop with
  | some stop => stop.offset
  | none => input.utf8ByteSize

def remainder (r : ScanResult) : String :=
  match r.stop with
  | some stop => stop.rest
  | none => ""

/-- The result is what the spans say, and the spans are the scanned part of the input. -/
structure Tiles (input : String) (options : Options) (delims : List Delimiter) (r : ScanResult)
    (xs : List Span) : Prop where
  laid : ∃ opened, Laid options.comments xs opened
  nonempty : ∀ x ∈ xs, x.text ≠ ""
  covers : input = cover xs ++ r.remainder
  scanned : (cover xs).utf8ByteSize = r.scannedBytes input
  splits : List.Forall₂ (SplitOf input) r.cutsAt.toList (splitsAt 0 xs)
  tokens : delims ≠ [] → r.texts = tokenTexts options.preserveDelimiters xs
  joined : delims = [] → splitsAt 0 xs = [] ∧ String.join r.texts = plainText xs
  comments : r.comments = commentTexts xs
  /-- Where no comment is taken out, the tokens, with what the cuts pass, are the scanned text. -/
  rebuilt : r.comments = [] →
    if delims = [] ∨ options.preserveDelimiters then String.join r.texts = cover xs
    else interleave r.texts ((splitsAt 0 xs).map (·.2)) = cover xs

end ScanResult

/-- Without comments, and with cuts in delimiter mode only, the pieces make up the whole. -/
theorem rebuilt_of_tokens {preserve : Bool} {delims : List Delimiter} {texts : List String}
    (hlaid : ∃ comments opened, Laid comments xs opened) (hnone : commentTexts xs = [])
    (htokens : delims ≠ [] → texts = tokenTexts preserve xs)
    (hjoined : delims = [] → splitsAt 0 xs = [] ∧ String.join texts = plainText xs) :
    if delims = [] ∨ preserve then String.join texts = cover xs
    else interleave texts ((splitsAt 0 xs).map (·.2)) = cover xs := by
  obtain ⟨comments, opened, hlaid⟩ := hlaid
  obtain ⟨-, hkinds⟩ := hlaid.of_no_opening (commentTexts_eq_nil_iff.mp hnone)
  by_cases hdelims : delims = []
  · obtain ⟨hsplits, htexts⟩ := hjoined hdelims
    have hall : xs.filter (·.kind = .text) = xs := by
      refine List.filter_eq_self.mpr fun x hx => ?_
      simpa using (hkinds x hx).resolve_right (kind_ne_split_of_splitsAt hsplits hx)
    rw [if_pos (.inl hdelims), htexts, plainText, hall]
  · rw [htokens hdelims]
    cases preserve with
    | true =>
      rw [if_pos (.inr rfl)]
      exact join_tokenTexts hkinds
    | false =>
      rw [if_neg (by simp [hdelims])]
      exact interleave_tokenTexts 0 hkinds

/-- The scanned part of the input is tiled by the spans that make up the result. -/
theorem exists_tiles {options : Options} {delims : List Delimiter} {r : ScanResult}
    (h : scan input options delims = .ok r) : ∃ xs, ScanResult.Tiles input options delims r xs := by
  obtain ⟨plan, hmake, rfl⟩ := exists_plan_of_scan h
  obtain ⟨rfl, hdelims, -⟩ := Plan.make_eq_ok_iff.mp hmake
  have hempty := Plan.resolve_eq_nil_iff hdelims
  obtain ⟨s, cur, s', hreach, hend, hfinal⟩ := Plan.exists_reaches_finished plan input
  obtain ⟨xs, htiled⟩ := exists_tiled hreach
  obtain ⟨hpieces, hcomments, hcutsAt, hstop⟩ := finished_spec hend
  have htext : cur.before ++ String.ofList cur.rest = input := hreach.text
  rw [hfinal]
  have htexts : (s'.ensureToken.result delims plan.options).texts = s.pieces :=
    (State.texts_ensureToken s').trans hpieces
  have hcomments' : (s'.ensureToken.result delims plan.options).comments = commentTexts xs :=
    hcomments.trans htiled.comments
  have htokens : delims ≠ [] → (s'.ensureToken.result delims plan.options).texts =
      tokenTexts plan.options.preserveDelimiters xs := by
    intro hne
    rw [htexts, htiled.pieces (mt hempty.mp hne)]
  have hjoined : delims = [] → splitsAt 0 xs = [] ∧
      String.join (s'.ensureToken.result delims plan.options).texts = plainText xs := by
    intro hnil
    rw [htexts]
    exact htiled.joined (hempty.mpr hnil)
  have hends : input = cover xs ++ (s'.ensureToken.result delims plan.options).remainder ∧
      (cover xs).utf8ByteSize = (s'.ensureToken.result delims plan.options).scannedBytes input := by
    rw [ScanResult.remainder, ScanResult.scannedBytes, htiled.covers,
      show (s'.ensureToken.result delims plan.options).stop = s'.stop from rfl]
    rcases hstop with ⟨hnil, hstop⟩ | ⟨matched, hstop⟩
    · rw [hnil] at htext
      have hall : cur.before = input := by simpa using htext
      rw [hstop, htiled.stop, hall]
      simp
    · rw [hstop]
      exact ⟨htext.symm, rfl⟩
  have hsplits : List.Forall₂ (SplitOf input)
      (s'.ensureToken.result delims plan.options).cutsAt.toList (splitsAt 0 xs) := by
    rw [show (s'.ensureToken.result delims plan.options).cutsAt = s.cutsAt from hcutsAt,
      ← hreach.text]
    exact htiled.splits
  exact ⟨xs, ⟨_, htiled.laid⟩, fun x hx => htiled.laid.text_ne_empty hx, hends.1, hends.2, hsplits,
    htokens, hjoined, hcomments', fun hnone =>
      rebuilt_of_tokens ⟨_, _, htiled.laid⟩ (hcomments'.symm.trans hnone) htokens hjoined⟩

theorem exists_tiles_line_comment :
    scan "a//x\n,b" {} [.literal ","] = .ok {
      delims := [.literal ","], options := {}, nesting := [], maxDepth := 0, comments := ["x"]
      tokens := #[⟨"a", ["x"]⟩, ⟨"b", []⟩], cuts := #[some ","], cutsAt := #[(5, ",")]
      stop := none } ∧
    ∃ xs, ScanResult.Tiles "a//x\n,b" {} [.literal ","] {
      delims := [.literal ","], options := {}, nesting := [], maxDepth := 0, comments := ["x"]
      tokens := #[⟨"a", ["x"]⟩, ⟨"b", []⟩], cuts := #[some ","], cutsAt := #[(5, ",")]
      stop := none } xs :=
  ⟨rfl, exists_tiles rfl⟩

end DelimiterScan
