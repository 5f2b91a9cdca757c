import DelimiterScan.Proofs.Indexed.Represents
import DelimiterScan.Proofs.Matches

/-!
# Steps with indices

A step with offsets and indices does what a step of the scan does (`agrees_step`), as long as the
input and the matches of the delimiters have less than 2 ^ 63 bytes. There is one lemma for each
way through the step, on states that represent one another.
-/

namespace DelimiterScan

namespace Indexed

variable {options : Options} {plan : Plan} {m : State} {s : DelimiterScan.State} {cur : Cursor}
  {text c : String} {char : Char} {cs : List Char}

theorem size_of_marked (hsize : cur.text.utf8ByteSize < 2 ^ 63)
    (hmark : Boundary.marked cur.rest text = true) : text.utf8ByteSize < 2 ^ 63 := by
  obtain ⟨-, more, hmore⟩ := Boundary.marked_iff.mp hmark
  have hrest : cur.text.utf8ByteSize =
      cur.before.utf8ByteSize + (text.utf8ByteSize + Text.byteSize more) := by
    simp [Cursor.text, ← hmore]
  omega

/-- A step with indices comes to the same as a step of the scan. -/
inductive Agrees (options : Options) : Except Fault (State × Option Nat) → Outcome → Prop
  | advanced {m : State} {s : DelimiterScan.State} {cur : Cursor} (h : Represents options m s) :
      Agrees options (.ok (m, some cur.offset)) (.advanced s cur)
  | finished {m : State} {s : DelimiterScan.State} (h : Represents options m s) :
      Agrees options (.ok (m, none)) (.finished s)

/-! ## The ways of a step -/

theorem agrees_pass {width : Nat} (h : Represents options m s)
    (hsize : cur.text.utf8ByteSize < 2 ^ 63) (hwidth : width < 2 ^ 63) :
    Agrees options (pass cur.text cur.offset (m, width)) (.advanced s (cur.advance width)) := by
  rw [pass, advance_eq_ok hsize hwidth]
  exact .advanced h

theorem agrees_plain (h : Represents options m s)
    (hfinished : s.buffer.finished.size = s.cuts.size) (hsize : cur.text.utf8ByteSize < 2 ^ 63)
    (hmark : Boundary.marked cur.rest text = true) :
    Agrees options (plain m text >>= pass cur.text cur.offset) (.plain s cur text) := by
  obtain ⟨m', hm', hrep⟩ := exists_addText h hfinished text
  have hplain : plain m text = .ok (m', text.utf8ByteSize) := by
    rw [plain, hm']
    rfl
  rw [hplain]
  exact agrees_pass hrep hsize (size_of_marked hsize hmark)

theorem agrees_inComment {b : Boundary Block} (h : Represents options m s)
    (hfinished : s.buffer.finished.size = s.cuts.size) (hsize : cur.text.utf8ByteSize < 2 ^ 63)
    (hmark : Boundary.marked cur.rest (b.marker?.getD c) = true) :
    Agrees options (inComment m (markerOf b) c >>= pass cur.text cur.offset)
      (Plan.inComment s cur b c) := by
  have hwidth := size_of_marked hsize hmark
  unfold inComment Plan.inComment
  rw [h.isEmpty_nesting, quoteMark?_markerOf]
  dsimp only
  split
  · cases b with
    | none =>
      obtain ⟨m', hm', hrep⟩ := exists_addComment h hfinished c
      simp only [markerOf, hm']
      exact agrees_pass hrep hsize hwidth
    | opens k =>
      obtain ⟨m', hm', hrep⟩ := exists_beginComment h hfinished
      simp only [markerOf, hm']
      exact agrees_pass hrep hsize hwidth
    | closes k => exact agrees_pass h hsize hwidth
  · exact agrees_plain h hfinished hsize hmark

theorem agrees_atBlockEdge {b : Boundary Block} (haligned : s.Aligned)
    (h : Represents options m (s.atBlock b)) (hsize : cur.text.utf8ByteSize < 2 ^ 63)
    (hmark : Boundary.marked cur.rest (b.marker?.getD c) = true) :
    Agrees options (atBlockEdge m (markerOf b) c >>= pass cur.text cur.offset)
      (Plan.atBlockEdge (s.atBlock b) cur b c) := by
  have hfinished := haligned.finished_atBlock b
  have hdepth : m.nesting.length = (s.atBlock b).depth := h.nesting.length_eq
  cases b with
  | none => exact agrees_plain h hfinished hsize hmark
  | opens k =>
    by_cases htwo : (s.atBlock (.opens k)).depth = 2
    · -- The block around it has begun a token.
      have houter : s.nesting ≠ [] := by
        rintro hnil
        simp [State.depth, State.atBlock, hnil] at htwo
      have hcut := represents_cut h (haligned.begun houter) none
      simp only [atBlockEdge, markerOf, Plan.atBlockEdge, hdepth, if_pos htwo]
      exact agrees_plain hcut (DelimiterScan.State.Aligned.size_cut hfinished none) hsize hmark
    · simp only [atBlockEdge, markerOf, Plan.atBlockEdge, hdepth, if_neg htwo]
      exact agrees_plain h hfinished hsize hmark
  | closes k =>
    obtain ⟨m', hm', hrep⟩ := exists_addText h hfinished k.finish
    have hwidth := size_of_marked hsize hmark
    have hdepth' : m'.nesting.length = ((s.atBlock (.closes k)).addText k.finish).depth :=
      hrep.nesting.length_eq
    have hedge : atBlockEdge m (markerOf (.closes k)) c =
        .ok (if m'.nesting.length = 0 then m'.cut none else m', k.finish.utf8ByteSize) := by
      show (m.addText k.finish >>= _) = _
      rw [hm']
      rfl
    have hstate : Represents options (if m'.nesting.length = 0 then m'.cut none else m')
        (if ((s.atBlock (.closes k)).addText k.finish).depth = 0 then
          ((s.atBlock (.closes k)).addText k.finish).cut none
        else (s.atBlock (.closes k)).addText k.finish) := by
      rw [hdepth']
      split
      · exact represents_cut hrep rfl none
      · exact hrep
    rw [hedge]
    exact agrees_pass hstate hsize hwidth

theorem offset_eq_size_iff : cur.offset = cur.text.utf8ByteSize ↔ cur.rest.isEmpty = true := by
  have hsize := cur.utf8ByteSize_text
  rw [List.isEmpty_iff]
  constructor
  · intro heq
    by_contra hne
    have hpos := Text.byteSize_pos hne
    omega
  · intro hnil
    rw [hnil, Text.byteSize_nil] at hsize
    omega

theorem exists_cutAt (h : Represents plan.options m s.ensureToken)
    (hfinished : s.buffer.finished.size = s.cuts.size) (cur : Cursor) (matched : String)
    (width : Nat) :
    ∃ m', cutAt plan cur.text m cur.offset (cur.advance width).offset matched = .ok m' ∧
      Represents plan.options m' (plan.cutState s cur matched width) := by
  have hnoted : Represents plan.options { m with cutsAt := m.cutsAt.push (cur.offset, matched) }
      (s.ensureToken.noteMatch cur.offset matched) := by
    refine ⟨h.nesting, h.openQuote, h.openComment, h.maxDepth, h.comments, h.tokens, h.cuts, ?_,
      h.stop⟩
    rw [h.cutsAt]
    rfl
  unfold cutAt Plan.cutState
  dsimp only
  by_cases hpreserve : plan.options.preserveDelimiters = true
  · obtain ⟨m', hm', hrep⟩ := exists_addText hnoted hfinished (cur.passed width)
    refine ⟨m'.cut (some matched), ?_, ?_⟩
    · rw [if_pos hpreserve, slice_passed]
      simp only [bind, Except.bind, String.ofList_toList, hm']
      rfl
    · rw [if_pos hpreserve]
      exact represents_cut hrep rfl _
  · have hcut := represents_cut hnoted rfl (some matched)
    rw [if_neg hpreserve, if_neg hpreserve]
    have hend : (cur.advance width).offset = cur.text.utf8ByteSize ↔
        (cur.advance width).rest.isEmpty = true := by
      rw [← offset_eq_size_iff, Cursor.advance_text]
    by_cases hempty : (cur.advance width).rest.isEmpty = true
    · rw [if_pos (hend.mpr hempty), if_pos hempty]
      exact exists_ensureToken hcut (DelimiterScan.State.Aligned.size_cut hfinished _)
    · rw [if_neg (mt hend.mp hempty), if_neg hempty]
      exact ⟨_, rfl, hcut⟩

theorem agrees_atDelimiter (h : Represents plan.options m s)
    (hfinished : s.buffer.finished.size = s.cuts.size) (hsize : cur.text.utf8ByteSize < 2 ^ 63)
    (hbelow : Delimiter.AllBelow (2 ^ 63) plan.delims) (hmark : Boundary.marked cur.rest c = true) :
    Agrees plan.options (atDelimiter plan cur.text m cur.offset c) (plan.atDelimiter s cur c) := by
  have hrest : Text.byteSize cur.rest < 2 ^ 63 := by
    have htext := cur.utf8ByteSize_text
    omega
  obtain ⟨m', hm', hrep⟩ := exists_ensureToken h hfinished
  unfold atDelimiter
  rw [hm']
  simp only [bind, Except.bind]
  rw [hrep.tokens, firstMatchAt_eq_ok]
  cases hmatch : Delimiter.firstMatch? plan.delims cur s.ensureToken.buffer
      plan.options.caseInsensitive with
  | none =>
    rw [Plan.atDelimiter_of_no_match hmatch]
    exact agrees_plain hrep hfinished hsize hmark
  | some matched =>
    have hwidth : Plan.matchWidth matched c < 2 ^ 63 := by
      unfold Plan.matchWidth
      split
      · exact size_of_marked hsize hmark
      · exact Delimiter.utf8ByteSize_of_firstMatch? hrest hbelow hmatch
    obtain ⟨m'', hm'', hrep'⟩ :=
      exists_cutAt hrep hfinished cur matched (Plan.matchWidth matched c)
    have hadvance := advance_eq_ok hsize hwidth
    rw [Plan.atDelimiter_of_match hmatch]
    rw [Plan.matchWidth] at hadvance hm'' ⊢
    simp only [hadvance, hm'']
    exact .advanced hrep'

theorem stopAt_eq_ok (h : Represents plan.options m s) (cur : Cursor) :
    stopAt plan cur.text m cur.offset = .ok (plan.stop? s cur) := by
  rw [stopAt, h.isEmpty_nesting, Plan.stop?]
  split
  · rw [h.tokens, firstMatchAt_eq_ok]
  · rfl

theorem agrees_inText (h : Represents plan.options m s) (haligned : s.Aligned)
    (hsize : cur.text.utf8ByteSize < 2 ^ 63) (hbelow : Delimiter.AllBelow (2 ^ 63) plan.delims)
    (hrest : cur.rest = char :: cs) :
    Agrees plan.options (inText plan cur.text m cur.offset cur.rest char.toString)
      (plan.inText s cur char.toString) := by
  obtain ⟨nesting, hsearch, hrep⟩ := exists_blockAt h haligned cur
  have hfinished := haligned.finished_atBlock (plan.blockAt s cur)
  have hmark : Boundary.marked cur.rest
      ((plan.blockAt s cur).marker?.getD char.toString) = true :=
    Boundary.marked_getD hrest fun _ => Boundary.marked_ofBlocks
  rw [inText, hsearch, Plan.inText_eq]
  dsimp only [bind, Except.bind]
  rw [atBlock, stopAt_eq_ok hrep, hrep.isEmpty_nesting, isClosing_markerOf, quoteMark?_markerOf]
  dsimp only [bind, Except.bind]
  cases plan.stop? (s.atBlock (plan.blockAt s cur)) cur with
  | some matched =>
    exact .finished ⟨hrep.nesting, hrep.openQuote, hrep.openComment, hrep.maxDepth, hrep.comments,
      hrep.tokens, hrep.cuts, hrep.cutsAt, rfl⟩
  | none =>
    dsimp only
    split
    · exact agrees_atBlockEdge haligned hrep hsize hmark
    · split
      · exact agrees_atDelimiter hrep hfinished hsize hbelow (Boundary.marked_toString hrest)
      · exact agrees_plain hrep hfinished hsize hmark

theorem agrees_proceed {quote : Boundary String} {comment : Boundary Block}
    (h : Represents plan.options m s) (haligned : s.Aligned)
    (hsize : cur.text.utf8ByteSize < 2 ^ 63) (hbelow : Delimiter.AllBelow (2 ^ 63) plan.delims)
    (hrest : cur.rest = char :: cs)
    (hquote : ∀ mark, quote.quoteMark? = some mark → Boundary.marked cur.rest mark = true)
    (hcomment : ∀ mark, comment.marker? = some mark → Boundary.marked cur.rest mark = true) :
    Agrees plan.options
      (proceed plan cur.text m cur.offset cur.rest quote (markerOf comment) char.toString)
      (plan.proceed s cur quote comment char.toString) := by
  have hfinished := haligned.finished
  unfold proceed Plan.proceed
  rw [isSome_eq_of_rel h.openComment, isSome_eq_of_rel h.openQuote, isClosing_markerOf, h.cuts]
  split
  · exact agrees_inComment h hfinished hsize (Boundary.marked_getD hrest hcomment)
  split
  · exact agrees_plain h hfinished hsize (Boundary.marked_getD hrest hquote)
  split
  · exact agrees_plain h hfinished hsize (Boundary.marked_toString hrest)
  · exact agrees_inText h haligned hsize hbelow hrest

/-- A step with indices does what the step does, and does not fault. -/
theorem agrees_step (h : Represents plan.options m s) (haligned : s.Aligned)
    (hsize : cur.text.utf8ByteSize < 2 ^ 63) (hbelow : Delimiter.AllBelow (2 ^ 63) plan.delims) :
    Agrees plan.options (step plan cur.text m cur.offset) (plan.step s cur) := by
  unfold step
  rw [splitAt_offset]
  cases hrest : cur.rest with
  | nil =>
    rw [Plan.step_of_rest_nil hrest]
    exact .finished h
  | cons c cs =>
    obtain ⟨openQuote, hquote, hrepQuote⟩ := exists_quoteAt h cur
    obtain ⟨openComment, hcomment, hrep⟩ := exists_commentAt hrepQuote cur
    have hgo := agrees_proceed hrep ((haligned.atQuote _).atComment _) hsize hbelow hrest
      (Plan.marked_quoteAt plan s cur)
      (Plan.marked_commentAt plan (s.atQuote (plan.quoteAt s cur)) cur)
    rw [hrest] at hquote hcomment hgo
    rw [Plan.step_eq hrest]
    simp only [firstChar_cons, hquote, hcomment, bind, Except.bind]
    exact hgo

end Indexed

end DelimiterScan
