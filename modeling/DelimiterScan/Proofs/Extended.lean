import DelimiterScan.Proofs.Tiling

/-!
# More text behind

A step over the beginning of a text and the step over the whole text come to the same as far as
both see the same at the cursor, and pass no more than the beginning (`extends_step`). There is one
difference: behind a cut at the end of a text the next token is begun at once.
-/

namespace DelimiterScan

namespace Cursor

def extend (cur : Cursor) (tail : List Char) : Cursor := ⟨cur.before, cur.rest ++ tail⟩

@[simp] theorem rest_extend (cur : Cursor) (tail : List Char) :
    (cur.extend tail).rest = cur.rest ++ tail := rfl

@[simp] theorem offset_extend (cur : Cursor) (tail : List Char) :
    (cur.extend tail).offset = cur.offset := rfl

theorem extend_inj {cur cur' : Cursor} {tail : List Char} :
    cur.extend tail = cur'.extend tail ↔ cur = cur' := by
  constructor
  · intro h
    cases cur
    cases cur'
    simp only [extend, mk.injEq, List.append_left_inj] at h
    rw [h.1, h.2]
  · rintro rfl
    rfl

variable {cur : Cursor} {text : String}

/-- What stands at the cursor is passed in the same way. -/
theorem advance_extend (hmark : Boundary.marked cur.rest text = true) (tail : List Char) :
    (cur.extend tail).advance text.utf8ByteSize =
      (cur.advance text.utf8ByteSize).extend tail := by
  obtain ⟨hne, ys, hys⟩ := Boundary.marked_iff.mp hmark
  have hchars : text.toList ≠ [] := by simpa using hne
  have hrest : (cur.extend tail).rest = text.toList ++ (ys ++ tail) := by
    rw [rest_extend, ← hys, List.append_assoc]
  rw [← Text.byteSize_toList, advance_byteSize hrest hchars, advance_byteSize hys.symm hchars]
  rfl

end Cursor

/-- The outcome with more text behind. Where there was no text left, the current token may not be
begun yet. -/
inductive Outcome.Extends (tail : List Char) : Outcome → Outcome → Prop
  | advanced {s t : State} {cur : Cursor} (hstate : t.ensureToken = s.ensureToken)
      (hsame : cur.rest ≠ [] → t = s) :
      Extends tail (.advanced s cur) (.advanced t (cur.extend tail))

namespace Plan

variable {plan : Plan} {s : State} {cur : Cursor} {b : Boundary Block} {c : Char}
  {cs tail : List Char}

/-! ## What is passed is the same -/

theorem extends_same {text : String} (hmark : Boundary.marked cur.rest text = true)
    (s : State) (tail : List Char) :
    Outcome.Extends tail (.advanced s (cur.advance text.utf8ByteSize))
      (.advanced s ((cur.extend tail).advance text.utf8ByteSize)) := by
  rw [Cursor.advance_extend hmark]
  exact .advanced rfl fun _ => rfl

theorem extends_inComment {text : String}
    (hmark : Boundary.marked cur.rest (b.marker?.getD text) = true) (s : State)
    (tail : List Char) :
    Outcome.Extends tail (inComment s cur b text) (inComment s (cur.extend tail) b text) := by
  unfold inComment
  dsimp only
  split
  · exact extends_same hmark _ tail
  · exact extends_same hmark _ tail

theorem extends_atBlockEdge {text : String}
    (hmark : Boundary.marked cur.rest (b.marker?.getD text) = true) (s : State)
    (tail : List Char) :
    Outcome.Extends tail (atBlockEdge s cur b text) (atBlockEdge s (cur.extend tail) b text) := by
  cases b <;> exact extends_same hmark _ tail

/-- A cut in front of more text leaves the next token alone. -/
theorem extends_cutState {text : String} (hmark : Boundary.marked cur.rest text = true)
    (plan : Plan) (s : State) (matched : String) (htail : tail ≠ []) :
    Outcome.Extends tail
      (.advanced (plan.cutState s cur matched text.utf8ByteSize) (cur.advance text.utf8ByteSize))
      (.advanced (plan.cutState s (cur.extend tail) matched text.utf8ByteSize)
        ((cur.extend tail).advance text.utf8ByteSize)) := by
  obtain ⟨hne, hbegins⟩ := Boundary.marked_iff.mp hmark
  have hpassed : (cur.extend tail).passed text.utf8ByteSize = cur.passed text.utf8ByteSize := by
    rw [Cursor.passed_of_begins hne hbegins,
      Cursor.passed_of_begins hne (hbegins.trans (List.prefix_append _ tail))]
  have hmore : ((cur.advance text.utf8ByteSize).extend tail).rest.isEmpty = false := by
    simp [htail]
  rw [Cursor.advance_extend hmark]
  unfold cutState
  dsimp only
  rw [hpassed, Cursor.advance_extend hmark, Cursor.offset_extend, hmore]
  -- Only without kept delimiters does a cut look at whether the text ends behind it.
  by_cases hpreserve : plan.options.preserveDelimiters = true
  · rw [if_pos hpreserve, if_pos hpreserve]
    exact .advanced rfl fun _ => rfl
  · rw [if_neg hpreserve, if_neg hpreserve]
    split
    · next hend => exact .advanced rfl fun hrest => absurd (List.isEmpty_iff.mp hend) hrest
    · exact .advanced rfl fun _ => rfl

/-! ## The step -/

section Step

variable (hrest : cur.rest = c :: cs)

include hrest

theorem extends_atDelimiter (htail : tail ≠ [])
    (hsame : Delimiter.firstMatch? plan.delims (cur.extend tail) s.ensureToken.buffer
        plan.options.caseInsensitive =
      Delimiter.firstMatch? plan.delims cur s.ensureToken.buffer plan.options.caseInsensitive)
    (hpasses : ∀ matched, Delimiter.firstMatch? plan.delims cur s.ensureToken.buffer
        plan.options.caseInsensitive = some matched →
      ∃ text, Boundary.marked cur.rest text = true ∧
        matchWidth matched c.toString = text.utf8ByteSize) :
    Outcome.Extends tail (plan.atDelimiter s cur c.toString)
      (plan.atDelimiter s (cur.extend tail) c.toString) := by
  cases hmatch : Delimiter.firstMatch? plan.delims cur s.ensureToken.buffer
      plan.options.caseInsensitive with
  | none =>
    rw [atDelimiter_of_no_match hmatch, atDelimiter_of_no_match (hsame.trans hmatch)]
    exact extends_same (Boundary.marked_toString hrest) _ _
  | some matched =>
    obtain ⟨text, hmark, hwidth⟩ := hpasses matched hmatch
    rw [atDelimiter_of_match hmatch, atDelimiter_of_match (hsame.trans hmatch), hwidth]
    exact extends_cutState hmark plan s matched htail

/-- The same block is seen and no stop; where the whole text is searched for delimiters, the
beginning is. -/
theorem extends_inText (hblock : plan.blockAt s (cur.extend tail) = plan.blockAt s cur)
    (hstop : plan.stop? (s.atBlock (plan.blockAt s cur)) cur = none)
    (hstop' : plan.stop? (s.atBlock (plan.blockAt s cur)) (cur.extend tail) = none)
    (hcut : ∀ t : State, plan.inText s (cur.extend tail) c.toString =
        plan.atDelimiter t (cur.extend tail) c.toString →
      Outcome.Extends tail (plan.atDelimiter t cur c.toString)
        (plan.atDelimiter t (cur.extend tail) c.toString)) :
    Outcome.Extends tail (plan.inText s cur c.toString)
      (plan.inText s (cur.extend tail) c.toString) := by
  have hmark := marked_blockAt plan s hrest
  have hwhole : plan.inText s (cur.extend tail) c.toString = _ := inText_eq _
  rw [hblock, hstop'] at hwhole
  rw [hwhole] at hcut ⊢
  rw [inText_eq, hstop]
  dsimp only at hcut ⊢
  split
  · exact extends_atBlockEdge hmark _ tail
  · next hdelims =>
    rw [if_neg hdelims] at hcut
    split
    · next hflat =>
      rw [if_pos hflat] at hcut
      exact hcut _ rfl
    · exact extends_same hmark _ tail

theorem extends_proceed {quote : Boundary String} {comment : Boundary Block}
    (hquote : Boundary.marked cur.rest (quote.quoteMark?.getD c.toString) = true)
    (hcomment : Boundary.marked cur.rest (comment.marker?.getD c.toString) = true)
    (htext : plan.proceed s (cur.extend tail) quote comment c.toString =
        plan.inText s (cur.extend tail) c.toString →
      Outcome.Extends tail (plan.inText s cur c.toString)
        (plan.inText s (cur.extend tail) c.toString)) :
    Outcome.Extends tail (plan.proceed s cur quote comment c.toString)
      (plan.proceed s (cur.extend tail) quote comment c.toString) := by
  unfold proceed at htext ⊢
  split
  · exact extends_inComment hcomment s _
  · next hcommentless =>
    rw [if_neg hcommentless] at htext
    split
    · exact extends_same hquote _ _
    · next hquoteless =>
      rw [if_neg hquoteless] at htext
      split
      · exact extends_same (Boundary.marked_toString hrest) _ _
      · next hlimit =>
        rw [if_neg hlimit] at htext
        exact htext rfl

/-- The same quotation and the same comment are seen; where the whole text is searched further, so
is the beginning. -/
theorem extends_step (hquote : plan.quoteAt s (cur.extend tail) = plan.quoteAt s cur)
    (hcomment : plan.commentAt (s.atQuote (plan.quoteAt s cur)) (cur.extend tail) =
      plan.commentAt (s.atQuote (plan.quoteAt s cur)) cur)
    (htext : ∀ t : State, plan.step s (cur.extend tail) =
        plan.inText t (cur.extend tail) c.toString →
      Outcome.Extends tail (plan.inText t cur c.toString)
        (plan.inText t (cur.extend tail) c.toString)) :
    Outcome.Extends tail (plan.step s cur) (plan.step s (cur.extend tail)) := by
  have hrest' : (cur.extend tail).rest = c :: (cs ++ tail) := by
    rw [Cursor.rest_extend, hrest, List.cons_append]
  rw [step_eq hrest', hquote, hcomment] at htext
  rw [step_eq hrest, step_eq hrest', hquote, hcomment]
  exact extends_proceed hrest (Boundary.marked_getD hrest (marked_quoteAt plan s cur))
    (Boundary.marked_getD hrest (marked_commentAt plan _ cur)) (htext _)

end Step

end Plan

end DelimiterScan
