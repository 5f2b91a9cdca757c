import DelimiterScan.Proofs.Comments
import DelimiterScan.Proofs.Nesting

/-!
# Open regions

Wherever a scan comes by, an open quotation or comment is passed as a whole, whatever stands in it:
up to the first place where its end marker stands, or to the end of the input where there is none
(`inert_of_reaches`). Outside of blocks a comment goes to the fragment that is open; inside, and
for a quotation, the text goes to the token. In each case it was begun before, so the scan only adds
to what is there.
-/

namespace DelimiterScan

variable {plan : Plan} {delims : List Delimiter} {input : String} {s t : State} {cur cur' : Cursor}
  {token : Token} {k : Block} {mark marker : String} {body tail : List Char}

theorem Text.Unmarked.of_absent (h : marker = "" ∨ ¬ marker.toList <:+: body) :
    Unmarked marker body [] := by
  rintro before ahead rfl - hmark
  obtain ⟨hne, hbegins⟩ := Boundary.marked_iff.mp hmark
  rw [List.append_nil] at hbegins
  exact (h.resolve_left hne) (hbegins.isInfix.trans (List.suffix_append before ahead).isInfix)

/-! ## What is added -/

namespace State

/-- `t` has more text in the current token, and is like `s` besides. -/
def AddsText (s t : State) (text : String) : Prop :=
  ∃ token, s.buffer.current = some token ∧
    t = { s with buffer := ⟨s.buffer.finished, some { token with text := token.text ++ text }⟩ }

/-- `t` has more text in the last comment, which is also that of the current token, and is like `s`
besides. -/
def AddsComment (s t : State) (text : String) : Prop :=
  ∃ token earlier before fragment, s.buffer.current = some token ∧
    s.comments = earlier ++ [fragment] ∧ token.comments = before ++ [fragment] ∧
    t = { s with
      comments := earlier ++ [fragment ++ text]
      buffer := ⟨s.buffer.finished,
        some { token with comments := before ++ [fragment ++ text] }⟩ }

theorem addsText_addText (h : s.buffer.current = some token) (text : String) :
    s.AddsText (s.addText text) text := by
  refine ⟨token, h, ?_⟩
  rw [addText, TokenBuffer.modify, h]
  rfl

theorem addText_empty (h : s.buffer.current = some token) : s.addText "" = s := by
  obtain ⟨token', hcurrent, heq⟩ := addsText_addText h ""
  rw [heq, String.append_empty, ← hcurrent]

theorem addsComment_addComment {earlier before : List String} {fragment : String}
    (h : s.Fragment earlier before fragment) (hfinished : s.buffer.finished.size = s.cuts.size)
    (text : String) : s.AddsComment (s.addComment text) text := by
  obtain ⟨hall, token, hcurrent, hlast⟩ := h
  rw [← hfinished, TokenBuffer.getElem?_finished_size] at hcurrent
  refine ⟨token, earlier, before, fragment, hcurrent, hall, hlast, ?_⟩
  rw [addComment, TokenBuffer.modify, hcurrent, hall, appendToLast_concat, Option.getD_some,
    Token.addComment, hlast, appendToLast_concat]

theorem addComment_empty {earlier before : List String} {fragment : String}
    (h : s.Fragment earlier before fragment) (hfinished : s.buffer.finished.size = s.cuts.size) :
    s.addComment "" = s := by
  obtain ⟨token, earlier, before, fragment, hcurrent, hall, hlast, heq⟩ :=
    addsComment_addComment h hfinished ""
  rw [heq, String.append_empty, ← hall, ← hlast, ← hcurrent]

theorem ensureToken_of_current (h : s.buffer.current = some token) : s.ensureToken = s := by
  rw [ensureToken, TokenBuffer.ensure, TokenBuffer.modify, h, Option.getD_some, id, ← h]

end State

namespace Plan

/-! ## What is there while a region is open -/

theorem openQuote_inComment (s : State) (cur : Cursor) (b : Boundary Block) (c : String) :
    (inComment s cur b c).state.openQuote = s.openQuote := by
  unfold inComment
  dsimp only
  split
  · cases b <;> rfl
  · rfl

/-- A step that leaves a quotation open has written to the current token. -/
theorem current_of_openQuote (hopened : s.Opened plan) (hstep : plan.step s cur = .advanced t cur')
    (hquote : t.openQuote ≠ none) : t.buffer.current.isSome = true := by
  obtain ⟨c, cs, -, hreaction⟩ := exists_reaction hstep
  generalize ho : Outcome.advanced t cur' = o at hreaction
  have hnone : ∀ {p : Prop}, o.state.openQuote = none → p := by
    rintro p hclosed
    rw [← ho] at hclosed
    exact absurd hclosed hquote
  cases hreaction with
  | commentBegins => exact hnone (openQuote_inComment _ _ _ _)
  | commentGoesOn hcomment =>
    have hclosed := hopened.apart.resolve_right (by simp [hcomment])
    exact hnone ((openQuote_inComment _ _ _ _).trans hclosed)
  | commentEnds hclosed => exact hnone ((openQuote_inComment _ _ _ _).trans hclosed)
  | quoteBegins | quoteGoesOn | quoteEnds | limited | unmatched | nested =>
    cases ho
    rfl
  | stopped => cases ho
  | edge hlooks =>
    have hidle := hlooks.toIdle.atBlock (plan.blockAt s cur)
    exact hnone ((State.sameOpen_atBlockEdge _ _ _ _).idle hidle).openQuote
  | matched hlooks =>
    exact hnone ((State.sameOpen_cutState plan s cur _ _).idle hlooks.toIdle).openQuote

theorem Reaches.current_of_openQuote (h : plan.Reaches input s cur)
    (hquote : s.openQuote = some mark) : ∃ token, s.buffer.current = some token := by
  have hbegun : s.openQuote ≠ none → s.buffer.current.isSome = true := by
    refine h.induct (motive := fun s _ => s.openQuote ≠ none → s.buffer.current.isSome = true) ?_ ?_
    · exact fun hopen => absurd rfl hopen
    · exact fun hreach _ hstep => Plan.current_of_openQuote hreach.opened hstep
  exact Option.isSome_iff_exists.mp (hbegun (by simp [hquote]))

/-! ## Up to the end of the region, or of the input -/

/-- The scan goes on from `s` to the end of its input, where it is in the state `t`. It has a result
if no block is open. -/
structure RunsOut (plan : Plan) (delims : List Delimiter) (input : String) (s : State)
    (cur : Cursor) (t : State) : Prop where
  leads : plan.Leads (s, cur) (t, ⟨input, []⟩)
  verdict : scan input plan.options delims = t.verdict delims plan.options
  isOk : (∃ r, scan input plan.options delims = .ok r) ↔ s.nesting = []

theorem Reaches.runsOut (hmake : Plan.make plan.options delims = .ok plan)
    (h : plan.Reaches input s cur)
    (hleads : plan.Leads (s, cur) (t, ⟨cur.before ++ String.ofList cur.rest, []⟩))
    (hcurrent : t.buffer.current = some token) (hnesting : t.nesting = s.nesting) :
    plan.RunsOut delims input s cur t := by
  rw [show cur.before ++ String.ofList cur.rest = input from h.text] at hleads
  have hverdict : scan input plan.options delims = t.verdict delims plan.options := by
    rw [scan_of_make hmake, finalState_eq (h.trans hleads) (step_of_rest_nil rfl),
      State.ensureToken_of_current hcurrent]
  refine ⟨hleads, hverdict, ?_⟩
  rw [hverdict, ← hnesting]
  exact State.exists_verdict_eq_ok_iff

structure Inert (plan : Plan) (delims : List Delimiter) (input : String) (s : State)
    (cur : Cursor) : Prop where
  quote : ∀ mark ∈ s.openQuote, ∀ body tail, cur.rest = body ++ (mark.toList ++ tail) →
    Text.FirstAtEnd mark.toList body → plan.NoComment (mark.toList ++ tail) →
    ∃ t, s.AddsText t (String.ofList body ++ mark) ∧ plan.Leads (s, cur)
      ({ t with openQuote := none }, ⟨cur.before ++ String.ofList body ++ mark, tail⟩)
  comment : s.nesting = [] → ∀ k ∈ s.openComment, k.finish ≠ "" → ∀ body tail,
    cur.rest = body ++ (k.finish.toList ++ tail) → Text.FirstAtEnd k.finish.toList body →
    ∃ t, s.AddsComment t (String.ofList body) ∧ plan.Leads (s, cur)
      ({ t with openComment := none }, ⟨cur.before ++ String.ofList body ++ k.finish, tail⟩)
  /-- Inside blocks a comment is text of the token, like a quotation. -/
  nestedComment : s.nesting ≠ [] → ∀ k ∈ s.openComment, k.finish ≠ "" → ∀ body tail,
    cur.rest = body ++ (k.finish.toList ++ tail) → Text.FirstAtEnd k.finish.toList body →
    ∃ t, s.AddsText t (String.ofList body ++ k.finish) ∧ plan.Leads (s, cur)
      ({ t with openComment := none }, ⟨cur.before ++ String.ofList body ++ k.finish, tail⟩)
  endlessQuote : ∀ mark ∈ s.openQuote, mark = "" ∨ ¬ mark.toList <:+: cur.rest →
    ∃ t, s.AddsText t (String.ofList cur.rest) ∧ plan.RunsOut delims input s cur t
  endlessComment : s.nesting = [] → ∀ k ∈ s.openComment,
    k.finish = "" ∨ ¬ k.finish.toList <:+: cur.rest →
    ∃ t, s.AddsComment t (String.ofList cur.rest) ∧ plan.RunsOut delims input s cur t
  endlessNestedComment : s.nesting ≠ [] → ∀ k ∈ s.openComment,
    k.finish = "" ∨ ¬ k.finish.toList <:+: cur.rest →
    ∃ t, s.AddsText t (String.ofList cur.rest) ∧ plan.RunsOut delims input s cur t

/-- An open region is passed as a whole wherever a scan comes by. -/
theorem inert_of_reaches {options : Options} (hmake : Plan.make options delims = .ok plan)
    (h : plan.Reaches input s cur) : plan.Inert delims input s cur := by
  obtain ⟨rfl, -, -⟩ := make_eq_ok_iff.mp hmake
  obtain ⟨before, rest⟩ := cur
  have hquoteAlone : ∀ mark ∈ s.openQuote, s.openComment = none := fun mark hquote =>
    h.opened.apart.resolve_left (by simp [Option.mem_def.mp hquote])
  have hcommentAlone : ∀ k ∈ s.openComment, s.openQuote = none := fun k hcomment =>
    h.opened.apart.resolve_right (by simp [Option.mem_def.mp hcomment])
  have hfragment : s.nesting = [] → ∀ k ∈ s.openComment,
      ∃ earlier before fragment, s.Fragment earlier before fragment := fun hnesting k hcomment =>
    exists_fragment_of_visits (.passing h) hnesting (by simp [Option.mem_def.mp hcomment])
  have hfinished := h.aligned.finished
  have hbegun : s.nesting ≠ [] → ∃ token, s.buffer.current = some token := fun hnesting =>
    Option.isSome_iff_exists.mp (h.aligned.begun hnesting)
  constructor
  case quote =>
    rintro mark hquote body tail rfl hfirst hnone
    obtain ⟨token, hcurrent⟩ := h.current_of_openQuote hquote
    have hleads := leads_to_quote_end plan before "" tail (h.opened.quote mark hquote).2 hquote
      (hquoteAlone mark hquote) hfirst hnone
    rw [State.addText_empty hcurrent, String.empty_append] at hleads
    exact ⟨_, State.addsText_addText hcurrent _, hleads⟩
  case comment =>
    rintro hnesting k hcomment hfinish body tail rfl hfirst
    obtain ⟨earlier, inToken, fragment, hlast⟩ := hfragment hnesting k hcomment
    have hleads := leads_to_comment_end plan before "" tail hfinish (hcommentAlone k hcomment)
      hcomment hnesting hfirst
    rw [State.addComment_empty hlast hfinished, String.empty_append] at hleads
    exact ⟨_, State.addsComment_addComment hlast hfinished _, hleads⟩
  case nestedComment =>
    rintro hnesting k hcomment hfinish body tail rfl hfirst
    obtain ⟨token, hcurrent⟩ := hbegun hnesting
    have hleads := leads_to_nested_comment_end plan before "" tail hfinish
      (hcommentAlone k hcomment) hcomment hnesting hfirst
    rw [State.addText_empty hcurrent, String.empty_append] at hleads
    exact ⟨_, State.addsText_addText hcurrent _, hleads⟩
  case endlessQuote =>
    rintro mark hquote habsent
    obtain ⟨token, hcurrent⟩ := h.current_of_openQuote hquote
    have hleads := leads_in_quote plan before "" hquote (hquoteAlone mark hquote)
      (.of_absent habsent)
    rw [State.addText_empty hcurrent, String.empty_append, List.append_nil] at hleads
    exact ⟨_, State.addsText_addText hcurrent _, h.runsOut hmake hleads rfl rfl⟩
  case endlessComment =>
    rintro hnesting k hcomment habsent
    obtain ⟨earlier, inToken, fragment, hlast⟩ := hfragment hnesting k hcomment
    have hleads := leads_in_comment plan before "" hcomment hnesting (.of_absent habsent)
    rw [State.addComment_empty hlast hfinished, String.empty_append, List.append_nil] at hleads
    exact ⟨_, State.addsComment_addComment hlast hfinished _, h.runsOut hmake hleads rfl rfl⟩
  case endlessNestedComment =>
    rintro hnesting k hcomment habsent
    obtain ⟨token, hcurrent⟩ := hbegun hnesting
    have hleads := leads_in_nested_comment plan before "" hcomment hnesting (.of_absent habsent)
    rw [State.addText_empty hcurrent, String.empty_append, List.append_nil] at hleads
    exact ⟨_, State.addsText_addText hcurrent _, h.runsOut hmake hleads rfl rfl⟩

/-- Neither a bracket, a delimiter nor the beginning of a comment is seen in a quotation. -/
theorem inert_in_quotation :
    Plan.make {} [","] = .ok ⟨{}, [","], []⟩ ∧
    Plan.Reaches ⟨{}, [","], []⟩ "'(,/*'b"
      { openQuote := some "'", buffer := ⟨#[], some ⟨"'", []⟩⟩ }
      ⟨"'", ['(', ',', '/', '*', '\'', 'b']⟩ ∧
    Plan.Inert ⟨{}, [","], []⟩ [","] "'(,/*'b"
      { openQuote := some "'", buffer := ⟨#[], some ⟨"'", []⟩⟩ }
      ⟨"'", ['(', ',', '/', '*', '\'', 'b']⟩ ∧
    Plan.Leads ⟨{}, [","], []⟩
      ({ openQuote := some "'", buffer := ⟨#[], some ⟨"'", []⟩⟩ },
        ⟨"'", ['(', ',', '/', '*', '\'', 'b']⟩)
      ({ buffer := ⟨#[], some ⟨"'(,/*'", []⟩⟩ }, ⟨"'(,/*'", ['b']⟩) := by
  have hmake : Plan.make {} [","] = .ok ⟨{}, [","], []⟩ := rfl
  have hreach : Plan.Reaches ⟨{}, [","], []⟩ "'(,/*'b"
      { openQuote := some "'", buffer := ⟨#[], some ⟨"'", []⟩⟩ }
      ⟨"'", ['(', ',', '/', '*', '\'', 'b']⟩ :=
    Reaches.start.step rfl
  have hinert := inert_of_reaches hmake hreach
  obtain ⟨t, ⟨token, hcurrent, rfl⟩, hleads⟩ := hinert.quote "'" rfl ['(', ',', '/', '*'] ['b'] rfl
    (.singleton (by decide)) rfl
  cases hcurrent
  exact ⟨hmake, hreach, hinert, hleads⟩

end Plan

end DelimiterScan
