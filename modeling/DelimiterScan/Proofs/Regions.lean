import DelimiterScan.Proofs.Reaction
import Mathlib.Data.List.Infix

/-!
# Quotations and comments as a whole

Inside an open quotation or comment a scan passes character by character, up to the first place
where the end marker stands. The lemmas here follow it there for any tables of markers, and from
the beginning of a region to behind its end: `leads_quotation`, `leads_comment` and
`leads_nested_comment`.
-/

namespace DelimiterScan

/-- In `body ++ finish`, the end marker stands at the end alone. -/
def Text.FirstAtEnd (finish body : List Char) : Prop :=
  ∀ before ahead, body = before ++ ahead → ahead ≠ [] → ¬ finish <+: ahead ++ finish

namespace Text.FirstAtEnd

variable {finish body : List Char} {c : Char}

/-- A marker of one character comes first where the text before is free of it. -/
theorem singleton (h : c ∉ body) : FirstAtEnd [c] body := by
  rintro before ahead rfl hahead hbegins
  cases ahead with
  | nil => exact hahead rfl
  | cons d ahead =>
    obtain ⟨rfl, -⟩ := List.cons_prefix_cons.mp hbegins
    simp at h

end Text.FirstAtEnd

/-- The marker stands nowhere in the text, up to where `tail` begins. -/
def Text.Unmarked (marker : String) (body tail : List Char) : Prop :=
  ∀ before ahead, body = before ++ ahead → ahead ≠ [] → ¬ Boundary.marked (ahead ++ tail) marker

namespace Text.Unmarked

variable {marker : String} {body tail : List Char} {c : Char}

theorem of_cons (h : Unmarked marker (c :: body) tail) : Unmarked marker body tail :=
  fun before ahead hbody => h (c :: before) ahead (by rw [hbody, List.cons_append])

theorem not_marked (h : Unmarked marker (c :: body) tail) :
    ¬ Boundary.marked (c :: (body ++ tail)) marker :=
  h [] (c :: body) rfl (List.cons_ne_nil c body)

theorem of_first (h : FirstAtEnd marker.toList body) (tail : List Char) :
    Unmarked marker body (marker.toList ++ tail) := by
  intro before ahead hbody hahead hmark
  refine h before ahead hbody hahead ?_
  have hbegins := (Boundary.marked_iff.mp hmark).2
  rw [← List.append_assoc] at hbegins
  exact List.prefix_of_prefix_length_le hbegins (List.prefix_append _ _)
    (by simp only [List.length_append]; omega)

end Text.Unmarked

namespace Cursor

theorem advance_marker (marker before : String) (rest : List Char) (h : marker ≠ "") :
    (⟨before, marker.toList ++ rest⟩ : Cursor).advance marker.utf8ByteSize =
      ⟨before ++ marker, rest⟩ := by
  have hne : marker.toList ≠ [] := by simpa using h
  rw [← Text.byteSize_toList, advance_byteSize rfl hne, String.ofList_toList]

theorem advance_char (before : String) (c : Char) (rest : List Char) :
    (⟨before, c :: rest⟩ : Cursor).advance c.toString.utf8ByteSize =
      ⟨before ++ c.toString, rest⟩ := by
  simpa using advance_marker c.toString before rest (by simp)

end Cursor

theorem appendToLast_concat (fragments : List String) (last s : String) :
    appendToLast (fragments ++ [last]) s = fragments ++ [last ++ s] := by
  induction fragments with
  | nil => rfl
  | cons fragment fragments ih =>
    cases fragments with
    | nil => rfl
    | cons next fragments => simpa [appendToLast] using ih

theorem appendToLast_appendToLast (fragments : List String) (a b : String) :
    appendToLast (appendToLast fragments a) b = appendToLast fragments (a ++ b) := by
  rcases List.eq_nil_or_concat' fragments with rfl | ⟨earlier, fragment, rfl⟩
  · rfl
  · simp only [appendToLast_concat, String.append_assoc]

namespace State

variable {s : State}

theorem addText_addText (s : State) (a b : String) :
    (s.addText a).addText b = s.addText (a ++ b) := by
  simp [addText, TokenBuffer.modify, Token.addText, String.append_assoc]

theorem addComment_addComment (s : State) (a b : String) :
    (s.addComment a).addComment b = s.addComment (a ++ b) := by
  simp [addComment, TokenBuffer.modify, Token.addComment, appendToLast_appendToLast]

def withComment (s : State) (body : String) : State :=
  { s with
    buffer := s.buffer.modify fun t => { t with comments := t.comments ++ [body] }
    comments := s.comments ++ [body] }

theorem beginComment_eq (s : State) : s.beginComment = s.withComment "" := rfl

theorem addComment_withComment (s : State) (body more : String) :
    (s.withComment body).addComment more = s.withComment (body ++ more) := by
  simp [withComment, addComment, TokenBuffer.modify, Token.addComment, appendToLast_concat]

theorem eq_of_openComment (h : s.openComment = none) : { s with openComment := none } = s := by
  rw [← h]

theorem eq_of_openQuote (h : s.openQuote = none) : { s with openQuote := none } = s := by
  rw [← h]

end State

namespace Plan

variable {plan : Plan} {s : State} {k : Block} {mark : String} {body : List Char}

theorem marked_append {marker : String} (h : marker ≠ "") (tail : List Char) :
    Boundary.marked (marker.toList ++ tail) marker := by
  rw [Boundary.marked_iff]
  exact ⟨h, List.prefix_append _ _⟩

theorem exists_cons_of_marker {marker : String} (h : marker ≠ "") :
    ∃ c cs, ∀ before ahead, (⟨before, marker.toList ++ ahead⟩ : Cursor).rest =
      c :: (cs ++ ahead) := by
  obtain ⟨c, cs, hcons⟩ := List.exists_cons_of_ne_nil (show marker.toList ≠ [] by simpa using h)
  exact ⟨c, cs, fun before ahead => by rw [hcons]; rfl⟩

/-! ## Up to the end marker -/

/-- A region that keeps each of its characters is passed as far as its end marker does not stand.
The state is a function of the text that the region has kept so far. -/
theorem leads_through (plan : Plan) (f : String → State) {marker : String} {tail : List Char}
    (hstep : ∀ c cs before text, ¬ Boundary.marked (c :: cs) marker →
      plan.step (f text) ⟨before, c :: cs⟩ =
        .advanced (f (text ++ c.toString)) ⟨before ++ c.toString, cs⟩)
    (hbody : Text.Unmarked marker body tail) (before text : String) :
    plan.Leads (f text, ⟨before, body ++ tail⟩)
      (f (text ++ String.ofList body), ⟨before ++ String.ofList body, tail⟩) := by
  induction body generalizing before text with
  | nil => simpa using Relation.ReflTransGen.refl
  | cons c body ih =>
    have hcons : String.ofList (c :: body) = c.toString ++ String.ofList body := String.ofList_cons
    have hrest := ih hbody.of_cons (before ++ c.toString) (text ++ c.toString)
    rw [String.append_assoc, String.append_assoc, ← hcons] at hrest
    exact .cons (hstep c (body ++ tail) before text hbody.not_marked) hrest

section Open

variable (plan) (before text : String)

/-- In an open quotation everything goes to the token. -/
theorem leads_in_quote {tail : List Char} (hquote : s.openQuote = some mark)
    (hcomment : s.openComment = none) (hbody : Text.Unmarked mark body tail) :
    plan.Leads (s.addText text, ⟨before, body ++ tail⟩)
      (s.addText (text ++ String.ofList body), ⟨before ++ String.ofList body, tail⟩) :=
  leads_through plan s.addText
    (fun c cs before text hmark => by
      rw [step_in_quote (s := s.addText text) rfl hquote hcomment hmark, Outcome.plain,
        State.addText_addText, Cursor.advance_char])
    hbody before text

/-- In an open comment outside of blocks everything goes to the comment. -/
theorem leads_in_comment {tail : List Char} (hcomment : s.openComment = some k)
    (hnesting : s.nesting = []) (hbody : Text.Unmarked k.finish body tail) :
    plan.Leads (s.addComment text, ⟨before, body ++ tail⟩)
      (s.addComment (text ++ String.ofList body), ⟨before ++ String.ofList body, tail⟩) :=
  leads_through plan s.addComment
    (fun c cs before text hmark => by
      have hopen : (s.addComment text).nesting.isEmpty := by simp [State.addComment, hnesting]
      rw [step_in_comment (s := s.addComment text) rfl hcomment (fun _ => hmark), inComment,
        if_pos hopen]
      simp only [Boundary.marker?, Option.getD_none]
      rw [State.addComment_addComment, Cursor.advance_char])
    hbody before text

/-- In an open comment inside blocks everything goes to the token. -/
theorem leads_in_nested_comment {tail : List Char} (hcomment : s.openComment = some k)
    (hnesting : s.nesting ≠ []) (hbody : Text.Unmarked k.finish body tail) :
    plan.Leads (s.addText text, ⟨before, body ++ tail⟩)
      (s.addText (text ++ String.ofList body), ⟨before ++ String.ofList body, tail⟩) :=
  leads_through plan s.addText
    (fun c cs before text hmark => by
      have hopen : ¬ (s.addText text).nesting.isEmpty := by simp [State.addText, hnesting]
      rw [step_in_comment (s := s.addText text) rfl hcomment (fun _ => hmark), inComment,
        if_neg hopen]
      simp only [Boundary.marker?, Option.getD_none]
      rw [Outcome.plain, State.addText_addText, Cursor.advance_char])
    hbody before text

variable (tail : List Char)

/-- An open quotation goes to the token up to its end mark, which closes it. -/
theorem leads_to_quote_end (hmark : mark ≠ "") (hquote : s.openQuote = some mark)
    (hcomment : s.openComment = none) (hfirst : Text.FirstAtEnd mark.toList body)
    (hnone : plan.NoComment (mark.toList ++ tail)) :
    plan.Leads (s.addText text, ⟨before, body ++ (mark.toList ++ tail)⟩)
      (({ s with openQuote := none } : State).addText (text ++ String.ofList body ++ mark),
        ⟨before ++ String.ofList body ++ mark, tail⟩) := by
  refine (leads_in_quote plan before text hquote hcomment (.of_first hfirst tail)).snoc ?_
  obtain ⟨c, cs, hrest⟩ := exists_cons_of_marker hmark
  rw [step_quote_end (s := s.addText _) (hrest _ _) hquote hcomment (marked_append hmark tail)
    hnone, Outcome.plain, Cursor.advance_marker _ _ _ hmark, ← State.addText_addText _ _ mark]
  rfl

/-- Outside of blocks an open comment is kept as a comment up to its end marker. -/
theorem leads_to_comment_end (hfinish : k.finish ≠ "") (hquote : s.openQuote = none)
    (hcomment : s.openComment = some k) (hnesting : s.nesting = [])
    (hfirst : Text.FirstAtEnd k.finish.toList body) :
    plan.Leads (s.addComment text, ⟨before, body ++ (k.finish.toList ++ tail)⟩)
      (({ s with openComment := none } : State).addComment (text ++ String.ofList body),
        ⟨before ++ String.ofList body ++ k.finish, tail⟩) := by
  refine (leads_in_comment plan before text hcomment hnesting (.of_first hfirst tail)).snoc ?_
  obtain ⟨c, cs, hrest⟩ := exists_cons_of_marker hfinish
  have hopen : ∀ text, (s.addComment text).nesting.isEmpty := by simp [State.addComment, hnesting]
  rw [step_comment_end (s := s.addComment _) (hrest _ _) hquote hcomment
    (marked_append hfinish tail), inComment, if_pos (hopen _)]
  simp only [Boundary.marker?, Option.getD_some]
  rw [Cursor.advance_marker _ _ _ hfinish]
  rfl

/-- Inside blocks an open comment goes to the token up to its end marker. -/
theorem leads_to_nested_comment_end (hfinish : k.finish ≠ "") (hquote : s.openQuote = none)
    (hcomment : s.openComment = some k) (hnesting : s.nesting ≠ [])
    (hfirst : Text.FirstAtEnd k.finish.toList body) :
    plan.Leads (s.addText text, ⟨before, body ++ (k.finish.toList ++ tail)⟩)
      (({ s with openComment := none } : State).addText (text ++ String.ofList body ++ k.finish),
        ⟨before ++ String.ofList body ++ k.finish, tail⟩) := by
  refine (leads_in_nested_comment plan before text hcomment hnesting
    (.of_first hfirst tail)).snoc ?_
  obtain ⟨c, cs, hrest⟩ := exists_cons_of_marker hfinish
  have hopen : ∀ text, ¬ (s.addText text).nesting.isEmpty := by simp [State.addText, hnesting]
  rw [step_comment_end (s := s.addText _) (hrest _ _) hquote hcomment
    (marked_append hfinish tail), inComment, if_neg (hopen _)]
  simp only [Boundary.marker?, Option.getD_some]
  rw [Outcome.plain, Cursor.advance_marker _ _ _ hfinish, ← State.addText_addText _ _ k.finish]
  rfl

end Open

/-! ## From the beginning to behind the end -/

/-- A quotation goes to the token, its marks included. -/
theorem leads_quotation {tail : List Char} (hidle : s.Idle) (hmark : mark ≠ "")
    (hfind : plan.options.quotes.find?
      (Boundary.marked (mark.toList ++ (body ++ (mark.toList ++ tail)))) = some mark)
    (hfirst : Text.FirstAtEnd mark.toList body)
    (hnone : plan.NoComment (mark.toList ++ tail)) (before : String) :
    plan.Leads (s, ⟨before, mark.toList ++ (body ++ (mark.toList ++ tail))⟩)
      (s.addText (mark ++ String.ofList body ++ mark),
        ⟨before ++ mark ++ String.ofList body ++ mark, tail⟩) := by
  obtain ⟨c, cs, hrest⟩ := exists_cons_of_marker hmark
  have hopens : plan.step s ⟨before, mark.toList ++ (body ++ (mark.toList ++ tail))⟩ =
      .advanced (({ s with openQuote := some mark } : State).addText mark)
        ⟨before ++ mark, body ++ (mark.toList ++ tail)⟩ := by
    rw [step_quote_begin (hrest _ _) hidle hfind, Outcome.plain, Cursor.advance_marker _ _ _ hmark]
  have hend := leads_to_quote_end plan (s := { s with openQuote := some mark }) (before ++ mark)
    mark tail hmark rfl hidle.openComment hfirst hnone
  rw [show { s with openQuote := none } = s from State.eq_of_openQuote hidle.openQuote] at hend
  exact .cons hopens hend

section Comment

variable {tail : List Char} (hidle : s.Idle) (hstart : k.start ≠ "") (hfinish : k.finish ≠ "")
  (hnoQuote : plan.NoQuote (k.start.toList ++ (body ++ (k.finish.toList ++ tail))))
  (hfind : plan.options.comments.find?
    (Boundary.marked (k.start.toList ++ (body ++ (k.finish.toList ++ tail))) ·.start) = some k)
  (hfirst : Text.FirstAtEnd k.finish.toList body)

include hidle hstart hnoQuote hfind in
theorem step_comment_start (before : String) :
    plan.step s ⟨before, k.start.toList ++ (body ++ (k.finish.toList ++ tail))⟩ =
      .advanced (if s.nesting.isEmpty then ({ s with openComment := some k } : State).withComment ""
        else ({ s with openComment := some k } : State).addText k.start)
        ⟨before ++ k.start, body ++ (k.finish.toList ++ tail)⟩ := by
  obtain ⟨c, cs, hrest⟩ := exists_cons_of_marker hstart
  have hs : { s with openQuote := none, openComment := some k } =
      ({ s with openComment := some k } : State) := by rw [← hidle.openQuote]
  rw [step_comment_begin (hrest _ _) hidle.openComment (by simp [hidle.openQuote])
    (fun _ => hnoQuote) hfind, hs, inComment]
  simp only [Boundary.marker?, Option.getD_some, Cursor.advance_marker _ _ _ hstart, Outcome.plain,
    State.beginComment_eq]
  split <;> rfl

include hidle hstart hfinish hnoQuote hfind hfirst

/-- Outside of blocks the body of a comment is kept as a comment, without its markers. -/
theorem leads_comment (hnesting : s.nesting = []) (before : String) :
    plan.Leads (s, ⟨before, k.start.toList ++ (body ++ (k.finish.toList ++ tail))⟩)
      (s.withComment (String.ofList body),
        ⟨before ++ k.start ++ String.ofList body ++ k.finish, tail⟩) := by
  have hopens := step_comment_start hidle hstart hnoQuote hfind before
  rw [if_pos (by simp [hnesting])] at hopens
  have hend := leads_to_comment_end plan
    (s := ({ s with openComment := some k } : State).withComment "") (before ++ k.start) "" tail
    hfinish hidle.openQuote rfl hnesting hfirst
  have hclosed : { ({ s with openComment := some k } : State).withComment "" with
      openComment := none } = s.withComment "" := by
    rw [State.withComment, State.withComment, ← hidle.openComment]
  rw [hclosed, State.addComment_withComment, State.addComment_withComment, String.empty_append,
    String.empty_append] at hend
  exact .cons hopens hend

/-- Inside blocks a comment goes to the token, its markers included. -/
theorem leads_nested_comment (hnesting : s.nesting ≠ []) (before : String) :
    plan.Leads (s, ⟨before, k.start.toList ++ (body ++ (k.finish.toList ++ tail))⟩)
      (s.addText (k.start ++ String.ofList body ++ k.finish),
        ⟨before ++ k.start ++ String.ofList body ++ k.finish, tail⟩) := by
  have hopens := step_comment_start hidle hstart hnoQuote hfind before
  rw [if_neg (by simp [hnesting])] at hopens
  have hend := leads_to_nested_comment_end plan (s := { s with openComment := some k })
    (before ++ k.start) k.start tail hfinish hidle.openQuote rfl hnesting hfirst
  rw [show { s with openComment := none } = s from State.eq_of_openComment hidle.openComment]
    at hend
  exact .cons hopens hend

end Comment

end Plan

end DelimiterScan
