import DelimiterScan.Proofs.Comments
import DelimiterScan.Proofs.Limit
import DelimiterScan.Proofs.Separator.Back

/-!
# The tail of a scan with a limit

Once there are as many cuts as a limit allows, a scan goes on as a scan with no cuts left that
begins at the end of the last cut (`finalState_of_spent`). Such a scan still reads quotations and
comments: it makes one token, whose text is what it scans without the comments (`exists_remains`).
So the tail is copied as it is if there is no comment in it, and only then (`scan_tail`).
-/

namespace DelimiterScan

open DelimiterScan.Span

variable {plan : Plan} {input : String} {s t head : State} {cur cur' : Cursor} {n : Nat}

/-! ## Where the last cut ends -/

/-- The last cut at a delimiter ends at `offset`: behind what its match passes. A scan without cuts
begins at the beginning. -/
def EndsLastCut (input : String) (cutsAt : Array (Nat × String)) (offset : Nat) : Prop :=
  match cutsAt.back? with
  | none => offset = 0
  | some m => ∃ piece, Consumed input m piece ∧ offset = m.1 + piece.utf8ByteSize

namespace Plan

/-- The scan of `input` comes by `s` right behind its `n`-th cut. There it stands as `head` does,
which has no token begun. -/
structure Spent (plan : Plan) (input : String) (n : Nat) (s head : State) (cur : Cursor) :
    Prop where
  reach : plan.Reaches input s cur
  ensured : s.ensureToken = head.ensureToken
  eq : cur.rest ≠ [] → s = head
  idle : head.Idle
  nesting : head.nesting = []
  current : head.buffer.current = none
  stop : head.stop = none
  cuts : head.cuts.size = n
  ends : EndsLastCut input head.cutsAt cur.offset

theorem Spent.size_cuts (h : plan.Spent input n s head cur) : s.cuts.size = n := by
  have hsame : s.ensureToken.cuts = head.ensureToken.cuts := by rw [h.ensured]
  exact (congrArg Array.size hsame).trans h.cuts

theorem Spent.cutsAt (h : plan.Spent input n s head cur) : s.cutsAt = head.cutsAt := by
  have hsame : s.ensureToken.cutsAt = head.ensureToken.cutsAt := by rw [h.ensured]
  exact hsame

theorem Spent.finished (h : plan.Spent input n s head cur) :
    s.buffer.finished = head.buffer.finished := by
  have hsame : s.ensureToken.buffer.finished = head.ensureToken.buffer.finished := by
    rw [h.ensured]
  exact hsame

/-- Behind a cut no token is begun, unless the text ends there. -/
theorem exists_ensured_cutState (plan : Plan) (s : State) (cur : Cursor) (matched : String)
    (width : Nat) :
    ∃ head : State, (plan.cutState s cur matched width).ensureToken = head.ensureToken ∧
      ((cur.advance width).rest ≠ [] → plan.cutState s cur matched width = head) ∧
      s.SameOpen head ∧ head.buffer.current = none ∧ head.stop = s.stop ∧
      head.cuts = s.cuts.push (some matched) ∧
      head.cutsAt = s.cutsAt.push (cur.offset, matched) := by
  unfold cutState
  dsimp only
  split
  · exact ⟨_, rfl, fun _ => rfl, ⟨rfl, rfl, rfl, rfl⟩, rfl, rfl, rfl, rfl⟩
  · split
    · next hend =>
      exact ⟨(s.ensureToken.noteMatch cur.offset matched).cut (some matched), rfl,
        fun hne => absurd (List.isEmpty_iff.mp hend) hne, ⟨rfl, rfl, rfl, rfl⟩, rfl, rfl, rfl, rfl⟩
    · exact ⟨_, rfl, fun _ => rfl, ⟨rfl, rfl, rfl, rfl⟩, rfl, rfl, rfl, rfl⟩

theorem spent_of_cut (hdelims : plan.delims ≠ []) (h : plan.Reaches input s cur)
    (hstep : plan.step s cur = .advanced t cur') (hcuts : t.cuts ≠ s.cuts) :
    ∃ head, plan.Spent input t.cuts.size t head cur' := by
  obtain ⟨hidle, hnesting, c, cs, matched, hrest, -, rfl, rfl⟩ :=
    exists_match_of_cut hstep hdelims hcuts
  obtain ⟨xs, htiled⟩ := exists_tiled h
  obtain ⟨head, hensured, heq, hopen, hcurrent, hstop, hcuts', hcutsAt⟩ :=
    plan.exists_ensured_cutState s cur matched (matchWidth matched c.toString)
  have hconsumed := consumed_matchWidth hrest matched
  rw [h.text] at hconsumed
  refine ⟨head, h.step hstep, hensured, heq, hopen.idle hidle, hopen.nesting.trans hnesting,
    hcurrent, hstop.trans htiled.stop, ?_, ?_⟩
  · show head.ensureToken.cuts.size = _
    rw [← hensured]
    rfl
  · rw [hcutsAt, EndsLastCut, Array.back?_push]
    exact ⟨_, hconsumed, Cursor.offset_advance ..⟩

/-- A scan that has made `n` cuts has come by the end of the last one. -/
theorem exists_spent (hdelims : plan.delims ≠ []) (h : plan.Reaches input s cur)
    (hn : s.cuts.size = n) :
    ∃ t head cur', plan.Spent input n t head cur' := by
  refine h.induct (motive := fun s _ => s.cuts.size = n →
    ∃ t head cur', plan.Spent input n t head cur') ?_ ?_ hn
  · rintro rfl
    exact ⟨{}, {}, .ofText input, .start, rfl, fun _ => rfl, ⟨rfl, rfl⟩, rfl, rfl, rfl, rfl, rfl⟩
  · intro s t cur cur' hreach ih hstep hsize
    by_cases hcuts : t.cuts = s.cuts
    · exact ih (hcuts ▸ hsize)
    · obtain ⟨head, hspent⟩ := spent_of_cut hdelims hreach hstep hcuts
      exact ⟨t, head, cur', hsize ▸ hspent⟩

/-! ## From the last cut on -/

/-- With no cut left, a step behind a front is the step of a scan that may not cut at all. -/
theorem step_spent (hlimit : plan.options.limit = some head.cuts.size) (hcuts : s.cuts = #[])
    (hbegun : s.nesting = [] → s.openComment ≠ none → s.comments ≠ []) (cur : Cursor)
    (front : String) :
    plan.step (s.behind head front) (cur.behind front) =
      ((plan.limited 0).step s cur).behind head front := by
  refine step_behind_of rfl rfl hbegun fun t c hsame => ?_
  have hnone : t.cuts = #[] := hsame.trans hcuts
  have hall : plan.options.limit = some (t.behind head front).cuts.size := by
    simp [hlimit, State.behind, hnone]
  have hzero : (plan.limited 0).options.limit = some t.cuts.size := by
    simp [limited, hnone]
  rw [if_pos hall, if_pos hzero]
  exact plain_behind t head cur front c

theorem cuts_of_reaches_uncut (h : (plan.limited 0).Reaches input s cur) : s.cuts = #[] :=
  (framed_of_leads (p := ({}, .ofText input)) rfl h).cuts

/-- If the steps behind the last cut are those of a plan that begins there, then the scan ends as
this plan does. -/
theorem Spent.finalState_eq {q : Plan} (h : plan.Spent input n s head cur)
    (hstep : ∀ {t place}, q.Reaches (String.ofList cur.rest) t place →
      plan.step (t.behind head cur.before) (place.behind cur.before) =
        (q.step t place).behind head cur.before) :
    plan.finalState input = (q.finalState (String.ofList cur.rest)).behind head cur.before := by
  have hstart := State.start_behind h.idle h.nesting h.current h.stop cur.before
  by_cases hend : cur.rest = []
  · rw [Plan.finalState_eq h.reach (step_of_rest_nil hend), h.ensured, hend]
    calc head.ensureToken = (({} : State).behind head cur.before).ensureToken := by rw [hstart]
      _ = _ := State.ensureToken_behind ..
  · obtain ⟨t, place, t', hreach, hlast, hfinal⟩ :=
      q.exists_reaches_finished (String.ofList cur.rest)
    have hleads := leads_behind_of hstep hreach
    have hplace : (Cursor.ofText (String.ofList cur.rest)).behind cur.before = cur := by
      rw [Cursor.behind, Cursor.ofText, String.append_empty, String.toList_ofList]
    rw [hstart, hplace] at hleads
    have hreach' := h.reach
    rw [h.eq hend] at hreach'
    have hend' := hstep hreach
    rw [hlast] at hend'
    rw [Plan.finalState_eq (hreach'.trans hleads) hend', hfinal, State.ensureToken_behind]

/-- Behind the last cut that is allowed, a scan ends as the scan of the tail alone that may not
cut. -/
theorem finalState_of_spent (hlimit : plan.options.limit = some n)
    (h : plan.Spent input n s head cur) :
    plan.finalState input =
      ((plan.limited 0).finalState (String.ofList cur.rest)).behind head cur.before :=
  h.finalState_eq fun hreach =>
    step_spent (h.cuts ▸ hlimit) (cuts_of_reaches_uncut hreach) hreach.comments_ne_nil _ _

end Plan

/-! ## Scans that may not cut -/

/-- The token is what the spans of the text say, without cuts: its text is theirs, and comments are
left out of it. -/
structure Remains (comments : List Block) (tail : String) (token : Token) (xs : List Span) :
    Prop where
  laid : ∃ opened, Laid comments xs opened
  covers : cover xs = tail
  uncut : ∀ x ∈ xs, x.kind ≠ .split
  text : token.text = plainText xs
  comments : token.comments = commentTexts xs

/-- Nothing but comments is left out. -/
theorem Remains.text_eq_iff {comments : List Block} {tail : String} {token : Token}
    {xs : List Span} (h : Remains comments tail token xs) :
    token.text = tail ↔ token.comments = [] := by
  obtain ⟨opened, hlaid⟩ := h.laid
  rw [h.text, h.comments, ← h.covers]
  exact hlaid.plainText_eq_cover_iff h.uncut

/-- A scan that makes no cut and comes to the end makes one token of all its input. -/
theorem Plan.exists_remains_of_uncut (plan : Plan) (hdelims : plan.delims ≠ []) (tail : String)
    (hfinished : (plan.finalState tail).buffer.finished = #[])
    (huncut : (plan.finalState tail).cutsAt = #[]) (hgoes : (plan.finalState tail).stop = none) :
    ∃ token xs, (plan.finalState tail).buffer.tokens = #[token] ∧
      Remains plan.options.comments tail token xs := by
  obtain ⟨s, cur, t, hreach, hend, hfinal⟩ := plan.exists_reaches_finished tail
  obtain ⟨xs, htiled⟩ := exists_tiled hreach
  obtain ⟨hpieces, hcomments, hcutsAt, hstop⟩ := finished_spec hend
  rw [hfinal] at hfinished huncut hgoes ⊢
  have hnoToken : t.buffer.finished = #[] := hfinished
  have hwhole : ∀ x ∈ xs, x.kind ≠ .split := by
    have hnone : s.cutsAt = #[] := hcutsAt.symm.trans huncut
    have hsplits := htiled.splits
    rw [hnone] at hsplits
    exact fun x => kind_ne_split_of_splitsAt (List.forall₂_nil_left_iff.mp hsplits)
  refine ⟨t.buffer.current.getD {}, xs, ?_, ⟨_, htiled.laid⟩, ?_, hwhole, ?_, ?_⟩
  · show t.buffer.finished.push (t.buffer.current.getD {}) = _
    rw [hnoToken]
    rfl
  · -- The scan was not stopped, so it has come to the end.
    have hrest : cur.rest = [] := by
      rcases hstop with ⟨hrest, -⟩ | ⟨matched, hstop⟩
      · exact hrest
      · have hnone : t.stop = none := hgoes
        rw [hstop] at hnone
        cases hnone
    have htext : cur.before ++ String.ofList cur.rest = tail := hreach.text
    rw [htiled.covers, ← htext, hrest, String.ofList_nil, String.append_empty]
  · have htexts : t.pieces = [plainText xs] := by
      rw [hpieces, htiled.pieces hdelims, tokenTexts_of_no_split _ hwhole]
    rw [State.pieces, hnoToken] at htexts
    exact List.singleton_inj.mp htexts
  · have hmirrored : t.Mirrored := (Visits.last hreach hend).mirrored
    have hall := hmirrored.comments
    rw [hcomments, htiled.comments, TokenBuffer.comments, hnoToken] at hall
    exact hall.symm

/-- A scan that may not cut makes one token of all its input, and opens no block. -/
theorem Plan.exists_remains (plan : Plan) (hdelims : plan.delims ≠ [])
    (hlimit : plan.options.limit = some 0) (tail : String) :
    (plan.finalState tail).nesting = [] ∧ ∃ token xs,
      (plan.finalState tail).buffer.tokens = #[token] ∧
      Remains plan.options.comments tail token xs := by
  have hframed : State.Framed {} (plan.finalState tail) := framed_finalState .start hlimit
  exact ⟨hframed.nesting,
    plan.exists_remains_of_uncut hdelims tail hframed.finished hframed.cutsAt hframed.stop⟩

/-! ## Results -/

/-- The text behind the last cut of a result with `n` cuts is `tail`, and `token` is what becomes
of it: what a scan of the tail by itself makes of it that may not cut. -/
structure ScanResult.Tail (input : String) (options : Options) (delims : List Delimiter) (n : Nat)
    (r : ScanResult) (tail : String) (token : Token) : Prop where
  behind : ∃ before, input = before ++ tail ∧ EndsLastCut input r.cutsAt before.utf8ByteSize
  last : r.tokens.size = n + 1 ∧ r.tokens[n]? = some token
  alone : ∃ r₀, scan tail { options with limit := some 0 } delims = .ok r₀ ∧ r₀.tokens = #[token]
  spans : ∃ xs, Remains options.comments tail token xs
  verbatim : token.text = tail ↔ token.comments = []

/-- Behind as many cuts as the limit allows, the rest of the input goes to the last token without
the comments in it. So it is copied as it is exactly if there is no comment in it. -/
theorem scan_tail (input : String) (options : Options) (delims : List Delimiter)
    (hdelims : delims ≠ []) {n : Nat} (hlimit : options.limit = some n) {r : ScanResult}
    (hscan : scan input options delims = .ok r) (hcuts : r.cuts.size = n) :
    ∃ tail token, r.Tail input options delims n tail token := by
  obtain ⟨plan, hmake, rfl⟩ := exists_plan_of_scan hscan
  obtain ⟨rfl, hresolved, -⟩ := Plan.make_eq_ok_iff.mp hmake
  have hdelims' : plan.delims ≠ [] := mt (Plan.resolve_eq_nil_iff hresolved).mp hdelims
  obtain ⟨s, cur, s', hreach, hend, hfinal⟩ := plan.exists_reaches_finished input
  have hsize : s.cuts.size = n := by
    rw [← (Plan.cuts_of_finished hend).1, ← hcuts, hfinal]
    rfl
  obtain ⟨t, head, place, hspent⟩ := Plan.exists_spent hdelims' hreach hsize
  obtain ⟨hnesting, token, xs, htokens, hremains⟩ :=
    (plan.limited 0).exists_remains hdelims' rfl (String.ofList place.rest)
  have hwhole := Plan.finalState_of_spent hlimit hspent
  have hframed := Plan.framed_finalState hspent.reach (hspent.size_cuts ▸ hlimit)
  have htokens' : (plan.finalState input).buffer.tokens = head.buffer.finished.push token := by
    rw [hwhole, State.tokens_behind, htokens]
    rfl
  have hfinished : head.buffer.finished.size = n := by
    rw [← hspent.finished, hspent.reach.aligned.finished, hspent.size_cuts]
  refine ⟨String.ofList place.rest, token, ⟨place.before, ?_, ?_⟩, ⟨?_, ?_⟩, ?_, ⟨xs, hremains⟩,
    hremains.text_eq_iff⟩
  · exact hspent.reach.text.symm
  · show EndsLastCut input (plan.finalState input).cutsAt place.before.utf8ByteSize
    rw [hframed.cutsAt, hspent.cutsAt]
    exact hspent.ends
  · show (plan.finalState input).buffer.tokens.size = n + 1
    rw [htokens', Array.size_push, hfinished]
  · show (plan.finalState input).buffer.tokens[n]? = some token
    rw [htokens', ← hfinished, Array.getElem?_push_size]
  · rw [scan_of_make (Plan.make_limited hmake 0), State.verdict_of_nil hnesting]
    exact ⟨_, rfl, htokens⟩

def cutOnce : Options := { limit := some 1 }

/-- In the tail the comment is taken out, and the delimiter is text. -/
theorem scan_tail_with_comment :
    [Delimiter.literal ","] ≠ [] ∧ cutOnce.limit = some 1 ∧
    ∃ r tail token, scan "a,b/*x*/c,d" cutOnce [.literal ","] = .ok r ∧ r.cuts.size = 1 ∧
      r.Tail "a,b/*x*/c,d" cutOnce [.literal ","] 1 tail token ∧ token = ⟨"bc,d", ["x"]⟩ := by
  refine ⟨by simp, rfl, ?_⟩
  obtain ⟨tail, token, htail⟩ :=
    scan_tail "a,b/*x*/c,d" cutOnce [.literal ","] (by simp) rfl rfl rfl
  exact ⟨_, tail, token, rfl, rfl, htail, (Option.some.inj htail.last.2).symm⟩

/-- The text behind the last cut need not be the text of the last token. -/
theorem tail_not_verbatim :
    ∃ r token, scan "a,b/*x*/c" cutOnce [.literal ","] = .ok r ∧ r.cuts.size = 1 ∧
      EndsLastCut "a,b/*x*/c" r.cutsAt "a,".utf8ByteSize ∧ "a,b/*x*/c" = "a," ++ "b/*x*/c" ∧
      r.tokens[1]? = some token ∧ token.text ≠ "b/*x*/c" := by
  let atComma : Cursor := ⟨"a", ",b/*x*/c".toList⟩
  have hrest : atComma.rest = ',' :: "b/*x*/c".toList := rfl
  exact ⟨_, _, rfl, rfl, ⟨_, Plan.consumed_matchWidth hrest ",", rfl⟩, rfl, rfl, by decide⟩

end DelimiterScan
