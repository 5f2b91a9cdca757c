import DelimiterScan.Proofs.Separator.Front

/-!
# Behind a separator

Behind a cut a scan goes on as if the text began there: all it does is the same, and what was
gathered before stays in front (`leads_behind`). The offsets alone count from the beginning of the
whole text.
-/

namespace DelimiterScan

variable {plan : Plan} {sep : Char} {s head : State} {cur : Cursor} {front input : String}

/-! ## States and places behind a front -/

/-- The state `s` of a scan that has gathered `head` before, from the text `front`. -/
def State.behind (s head : State) (front : String) : State where
  nesting := s.nesting
  openQuote := s.openQuote
  openComment := s.openComment
  maxDepth := max head.maxDepth s.maxDepth
  comments := head.comments ++ s.comments
  buffer := ⟨head.buffer.finished ++ s.buffer.finished, s.buffer.current⟩
  cuts := head.cuts ++ s.cuts
  cutsAt := head.cutsAt ++ s.cutsAt.map fun m => (front.utf8ByteSize + m.1, m.2)
  stop := s.stop

/-- Behind a cut the tokens are those up to the cut, then those of the text behind. -/
theorem TokenBuffer.tokens_append (finished : Array Token) (b : TokenBuffer) :
    (⟨finished ++ b.finished, b.current⟩ : TokenBuffer).tokens = finished ++ b.tokens := by
  unfold tokens
  cases b.current with
  | none => rfl
  | some token => exact (Array.append_push ..).symm

theorem State.tokens_behind (s head : State) (front : String) :
    (s.behind head front).buffer.tokens = head.buffer.finished ++ s.buffer.tokens :=
  TokenBuffer.tokens_append _ _

def Cursor.behind (cur : Cursor) (front : String) : Cursor := ⟨front ++ cur.before, cur.rest⟩

def Outcome.behind (o : Outcome) (head : State) (front : String) : Outcome :=
  match o with
  | advanced s cur => advanced (s.behind head front) (cur.behind front)
  | finished s => finished (s.behind head front)

namespace Cursor

@[simp] theorem rest_behind (cur : Cursor) (front : String) : (cur.behind front).rest = cur.rest :=
  rfl

theorem offset_behind (cur : Cursor) (front : String) :
    (cur.behind front).offset = front.utf8ByteSize + cur.offset :=
  String.utf8ByteSize_append

theorem advance_behind (cur : Cursor) (front : String) (width : Nat) :
    (cur.behind front).advance width = (cur.advance width).behind front := by
  simp only [behind, advance, String.append_assoc]

end Cursor

namespace State

@[simp] theorem nesting_behind (s head : State) (front : String) :
    (s.behind head front).nesting = s.nesting := rfl

@[simp] theorem openQuote_behind (s head : State) (front : String) :
    (s.behind head front).openQuote = s.openQuote := rfl

@[simp] theorem openComment_behind (s head : State) (front : String) :
    (s.behind head front).openComment = s.openComment := rfl

theorem addText_behind (s head : State) (front text : String) :
    (s.behind head front).addText text = (s.addText text).behind head front := rfl

theorem ensureToken_behind (s head : State) (front : String) :
    (s.behind head front).ensureToken = s.ensureToken.behind head front := rfl

theorem cut_behind (s head : State) (front : String) (matched : Option String) :
    (s.behind head front).cut matched = (s.cut matched).behind head front := by
  simp [cut, TokenBuffer.cut, behind]

theorem cut_at_depth_behind (s head : State) (front : String) (depth : Nat) :
    (if (s.behind head front).depth = depth then (s.behind head front).cut none
      else s.behind head front) =
        (if s.depth = depth then s.cut none else s).behind head front := by
  have hdepth : (s.behind head front).depth = s.depth := rfl
  rw [hdepth, cut_behind, apply_ite (State.behind · head front)]

theorem beginComment_behind (s head : State) (front : String) :
    (s.behind head front).beginComment = s.beginComment.behind head front := by
  simp [beginComment, TokenBuffer.modify, behind]

theorem appendToLast_append {fragments : List String} (h : fragments ≠ []) (before : List String)
    (text : String) :
    appendToLast (before ++ fragments) text = before ++ appendToLast fragments text := by
  obtain ⟨init, last, rfl⟩ := (List.eq_nil_or_concat' fragments).resolve_left h
  rw [← List.append_assoc, appendToLast_concat, appendToLast_concat, List.append_assoc]

theorem addComment_behind (h : s.comments ≠ []) (head : State) (front text : String) :
    (s.behind head front).addComment text = (s.addComment text).behind head front := by
  simp only [addComment, behind, TokenBuffer.modify, appendToLast_append h]

theorem atQuote_behind (s head : State) (front : String) (b : Boundary String) :
    (s.behind head front).atQuote b = (s.atQuote b).behind head front := by
  cases b <;> rfl

theorem atComment_behind (s head : State) (front : String) (b : Boundary Block) :
    (s.behind head front).atComment b = (s.atComment b).behind head front := by
  cases b <;> rfl

theorem atBlock_behind (s head : State) (front : String) (b : Boundary Block) :
    (s.behind head front).atBlock b = (s.atBlock b).behind head front := by
  cases b with
  | none => rfl
  | opens k => simp only [atBlock, behind, Nat.max_assoc]
  | closes k => rfl

/-- What is noted lies as far behind the beginning as the front is long. -/
theorem noteMatch_behind (s head : State) (cur : Cursor) (front matched : String) :
    (s.behind head front).noteMatch (cur.behind front).offset matched =
      (s.noteMatch cur.offset matched).behind head front := by
  simp [noteMatch, behind, Cursor.offset_behind]

/-- A front behind which nothing was gathered yet. -/
theorem start_behind (hidle : head.Idle) (hnesting : head.nesting = [])
    (hcurrent : head.buffer.current = none) (hstop : head.stop = none) (front : String) :
    ({} : State).behind head front = head := by
  obtain ⟨nesting, openQuote, openComment, maxDepth, comments, ⟨finished, current⟩, cuts, cutsAt,
    stop⟩ := head
  obtain ⟨hquote, hcomment⟩ := hidle
  simp only at hquote hcomment hnesting hcurrent hstop
  subst hquote hcomment hnesting hcurrent hstop
  simp [behind]

end State

/-! ## Steps behind a front -/

theorem Delimiter.firstMatch?_behind {delims : List Delimiter}
    (h : ∀ p, .predicate p ∉ delims) (cur : Cursor) (front : String) (b b' : TokenBuffer)
    (caseInsensitive : Bool) :
    firstMatch? delims (cur.behind front) b caseInsensitive =
      firstMatch? delims cur b' caseInsensitive := by
  refine findSome?_congr fun d hd => ?_
  cases d with
  | literal | pattern => rfl
  | predicate p => exact absurd hd (h p)

namespace Plan

theorem plain_behind (s head : State) (cur : Cursor) (front text : String) :
    Outcome.plain (s.behind head front) (cur.behind front) text =
      (Outcome.plain s cur text).behind head front := by
  rw [Outcome.plain, State.addText_behind, Cursor.advance_behind]
  rfl

/-- What is added to a comment belongs to one that began behind the front. -/
theorem inComment_behind {b : Boundary Block}
    (h : b = .none → s.nesting = [] → s.comments ≠ []) (head : State) (cur : Cursor)
    (front c : String) :
    inComment (s.behind head front) (cur.behind front) b c =
      (inComment s cur b c).behind head front := by
  by_cases hnesting : s.nesting = []
  · have hnesting' : (s.behind head front).nesting = [] := hnesting
    rw [inComment_top hnesting, inComment_top hnesting', Cursor.advance_behind]
    cases b with
    | none =>
      dsimp only
      rw [State.addComment_behind (h rfl hnesting)]
      rfl
    | opens k =>
      dsimp only
      rw [State.beginComment_behind]
      rfl
    | closes k => rfl
  · have hnesting' : (s.behind head front).nesting ≠ [] := hnesting
    rw [inComment_nested hnesting, inComment_nested hnesting', plain_behind]

theorem cutState_behind (plan : Plan) (s head : State) (cur : Cursor) (front matched : String)
    (width : Nat) :
    plan.cutState (s.behind head front) (cur.behind front) matched width =
      (plan.cutState s cur matched width).behind head front := by
  have hpassed : (cur.behind front).passed width = cur.passed width := rfl
  unfold cutState
  simp only [State.ensureToken_behind, State.noteMatch_behind, hpassed, State.addText_behind,
    State.cut_behind, Cursor.advance_behind, Cursor.rest_behind]
  split
  · rfl
  · split <;> rfl

/-- Behind a front one plan takes the step of another one without it, if both have the same tables
of quotations and comments, and do the same where nothing is open and nothing begins. -/
theorem step_behind_of {p q : Plan} (hquotes : p.options.quotes = q.options.quotes)
    (hcomments : p.options.comments = q.options.comments)
    (hbegun : s.nesting = [] → s.openComment ≠ none → s.comments ≠ [])
    (hidle : ∀ (t : State) (c : String), t.cuts = s.cuts →
      (if p.options.limit = some (t.behind head front).cuts.size then
        .plain (t.behind head front) (cur.behind front) c
      else p.inText (t.behind head front) (cur.behind front) c) =
        (if q.options.limit = some t.cuts.size then .plain t cur c
        else q.inText t cur c).behind head front) :
    p.step (s.behind head front) (cur.behind front) = (q.step s cur).behind head front := by
  cases hrest : cur.rest with
  | nil =>
    have hrest' : (cur.behind front).rest = [] := hrest
    rw [step_of_rest_nil hrest, step_of_rest_nil hrest']
    rfl
  | cons c cs =>
    have hrest' : (cur.behind front).rest = c :: cs := hrest
    -- Markers are looked for in the text ahead, by what is open; none of it has changed.
    have hquote : p.quoteAt (s.behind head front) (cur.behind front) = q.quoteAt s cur := by
      unfold quoteAt
      rw [hquotes]
      rfl
    have hcomment : ∀ t : State, p.commentAt (t.behind head front) (cur.behind front) =
        q.commentAt t cur := by
      intro t
      unfold commentAt
      rw [hcomments]
      rfl
    rw [step_eq hrest, step_eq hrest', hquote, State.atQuote_behind, hcomment,
      State.atComment_behind]
    generalize hb : q.commentAt (s.atQuote (q.quoteAt s cur)) cur = b
    have hcuts : ((s.atQuote (q.quoteAt s cur)).atComment b).cuts = s.cuts := by
      cases q.quoteAt s cur <;> cases b <;> rfl
    have hkept : b = .none →
        ((s.atQuote (q.quoteAt s cur)).atComment b).nesting = s.nesting ∧
          ((s.atQuote (q.quoteAt s cur)).atComment b).openComment = s.openComment ∧
          ((s.atQuote (q.quoteAt s cur)).atComment b).comments = s.comments := by
      rintro rfl
      cases q.quoteAt s cur <;> exact ⟨rfl, rfl, rfl⟩
    generalize (s.atQuote (q.quoteAt s cur)).atComment b = t at hcuts hkept ⊢
    unfold proceed
    have hsame : (t.behind head front).openComment = t.openComment ∧
        (t.behind head front).openQuote = t.openQuote := ⟨rfl, rfl⟩
    rw [hsame.1, hsame.2]
    by_cases hopen : (t.openComment.isSome || b.isClosing) = true
    · rw [if_pos hopen, if_pos hopen]
      refine inComment_behind (fun hnone hnesting => ?_) head cur front _
      obtain ⟨hn, ho, hc⟩ := hkept hnone
      rw [hc]
      refine hbegun (hn ▸ hnesting) ?_
      rw [← ho]
      simpa [hnone, Boundary.isClosing, Option.isSome_iff_ne_none] using hopen
    rw [if_neg hopen, if_neg hopen]
    by_cases hquoted : (t.openQuote.isSome || (q.quoteAt s cur).isClosing) = true
    · rw [if_pos hquoted, if_pos hquoted]
      exact plain_behind t head cur front _
    · rw [if_neg hquoted, if_neg hquoted]
      exact hidle t c.toString hcuts

theorem atBlockEdge_behind (s head : State) (cur : Cursor) (front : String) (b : Boundary Block)
    (c : String) :
    atBlockEdge (s.behind head front) (cur.behind front) b c =
      (atBlockEdge s cur b c).behind head front := by
  cases b with
  | none => exact plain_behind s head cur front c
  | opens k =>
    unfold atBlockEdge
    dsimp only
    rw [State.cut_at_depth_behind, plain_behind]
  | closes k =>
    unfold atBlockEdge
    dsimp only
    rw [State.addText_behind, State.cut_at_depth_behind, Cursor.advance_behind]
    rfl

/-- Nothing that a scan has passed or gathered decides what it does next: no predicate sees it, and
neither a stop nor a limit ends it. -/
structure Forward (plan : Plan) : Prop where
  limit : plan.options.limit = none
  stops : plan.stops = []
  delims : ∀ p, .predicate p ∉ plan.delims

theorem forward_of_separates (hsep : Separates sep plan.options plan.delims)
    (hstops : plan.stops = []) : plan.Forward :=
  ⟨hsep.limit, hstops, hsep.predicate_notMem⟩

section Forward

variable (hforward : plan.Forward)

include hforward

theorem atDelimiter_behind (s head : State) (cur : Cursor) (front c : String) :
    plan.atDelimiter (s.behind head front) (cur.behind front) c =
      (plan.atDelimiter s cur c).behind head front := by
  have hsame := Delimiter.firstMatch?_behind hforward.delims cur front
    (s.behind head front).ensureToken.buffer s.ensureToken.buffer plan.options.caseInsensitive
  cases hmatch : Delimiter.firstMatch? plan.delims cur s.ensureToken.buffer
      plan.options.caseInsensitive with
  | none =>
    rw [atDelimiter_of_no_match hmatch, atDelimiter_of_no_match (hsame.trans hmatch),
      State.ensureToken_behind, plain_behind]
  | some matched =>
    rw [atDelimiter_of_match hmatch, atDelimiter_of_match (hsame.trans hmatch), cutState_behind,
      Cursor.advance_behind]
    rfl

theorem inText_behind (s head : State) (cur : Cursor) (front c : String) :
    plan.inText (s.behind head front) (cur.behind front) c =
      (plan.inText s cur c).behind head front := by
  have hblock : plan.blockAt (s.behind head front) (cur.behind front) = plan.blockAt s cur := rfl
  rw [inText_eq, inText_eq, hblock, stop?_eq_none hforward.stops, stop?_eq_none hforward.stops,
    State.atBlock_behind, State.nesting_behind]
  dsimp only
  split
  · exact atBlockEdge_behind _ head cur front _ _
  · split
    · exact atDelimiter_behind hforward _ head cur front c
    · exact plain_behind _ head cur front _

/-- A step behind a front is the step without it. -/
theorem step_behind (hcomments : s.nesting = [] → s.openComment ≠ none → s.comments ≠ [])
    (head : State) (cur : Cursor) (front : String) :
    plan.step (s.behind head front) (cur.behind front) =
      (plan.step s cur).behind head front := by
  refine step_behind_of rfl rfl hcomments fun t c _ => ?_
  rw [if_neg (by simp [hforward.limit]), if_neg (by simp [hforward.limit])]
  exact inText_behind hforward t head cur front c

end Forward

/-! ## The run behind a front -/

/-- An open comment outside of blocks is the last one of all. -/
theorem Reaches.comments_ne_nil (h : plan.Reaches input s cur) (hnesting : s.nesting = [])
    (hopen : s.openComment ≠ none) : s.comments ≠ [] := by
  obtain ⟨xs, htiled⟩ := exists_tiled h
  obtain ⟨k, hk⟩ := Option.ne_none_iff_exists'.mp hopen
  have htop : s.topComment = some k := (if_pos hnesting).trans hk
  rw [htiled.comments]
  exact (htop ▸ htiled.laid).commentTexts_ne_nil

/-- Behind a front a run goes on as the run of a plan over a text, if each of its steps is the step
of that plan. -/
theorem leads_behind_of {q : Plan} (hstep : ∀ {s cur}, q.Reaches input s cur →
      plan.step (s.behind head front) (cur.behind front) = (q.step s cur).behind head front)
    (h : q.Reaches input s cur) :
    plan.Leads (({} : State).behind head front, (Cursor.ofText input).behind front)
      (s.behind head front, cur.behind front) := by
  refine h.induct (motive := fun s cur =>
    plan.Leads (({} : State).behind head front, (Cursor.ofText input).behind front)
      (s.behind head front, cur.behind front)) .refl ?_
  intro s s' cur cur' hreach hleads hnext
  refine hleads.snoc ?_
  rw [hstep hreach, hnext]
  rfl

/-- A run over a text is a run behind any front. -/
theorem leads_behind (hforward : plan.Forward) (h : plan.Reaches input s cur) (head : State)
    (front : String) :
    plan.Leads (({} : State).behind head front, (Cursor.ofText input).behind front)
      (s.behind head front, cur.behind front) :=
  leads_behind_of (fun hreach => step_behind hforward hreach.comments_ne_nil _ _ _) h

end Plan

end DelimiterScan
