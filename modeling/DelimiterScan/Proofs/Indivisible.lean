import DelimiterScan.Proofs.Tail
import DelimiterScan.Proofs.Truncation

/-!
# Tokens are indivisible

A token begins at the beginning of the text or behind a cut, where nothing is open, and it ends at a
cut or at the end. What a scan does in between depends on nothing before: it runs as over the text
of the token alone (`Spent.finalState_eq`). Nor does it depend on anything behind, because neither a
marker nor a literal that was passed in the token reaches beyond it (`finalState_in_front`). So the
scan of a token's text gives the token and makes no cut (`scan_token`).
-/

namespace DelimiterScan

/-- Text without comments is cut at literals, as often as they stand there, and the literals are
left out. -/
structure CutsPlainly (options : Options) (delims : List Delimiter) : Prop where
  comments : options.comments = []
  stops : options.stops = []
  limit : options.limit = none
  useRegex : options.useRegex = none
  preserveDelimiters : options.preserveDelimiters = false
  delims_ne_nil : delims ≠ []
  literals : ∀ d ∈ delims, ∃ text, d = .literal text

namespace CutsPlainly

variable {options : Options} {delims : List Delimiter}

theorem make_eq_ok (h : CutsPlainly options delims) :
    Plan.make options delims = .ok ⟨options, delims, []⟩ := by
  rw [Plan.make_eq_ok_iff, h.useRegex, h.stops]
  exact ⟨rfl, rfl, rfl⟩

theorem readsLiterals (h : CutsPlainly options delims) : ReadsLiterals options delims where
  useRegex := h.useRegex
  delims := h.literals
  stops := h.stops ▸ nofun
  apart := h.comments ▸ fun _ _ => nofun

theorem forward {plan : Plan} (h : CutsPlainly plan.options plan.delims)
    (hstops : plan.stops = []) : plan.Forward where
  limit := h.limit
  stops := hstops
  delims p hp := by
    obtain ⟨text, htext⟩ := h.literals _ hp
    cases htext

end CutsPlainly

/-- The text of the token is scanned to this token, without a cut. -/
structure Token.Whole (plan : Plan) (token : Token) : Prop where
  nesting : (plan.finalState token.text).nesting = []
  tokens : (plan.finalState token.text).buffer.tokens = #[token]
  cuts : (plan.finalState token.text).cuts = #[]
  cutsAt : (plan.finalState token.text).cutsAt = #[]

namespace Plan

variable {plan : Plan} {input : String} {s : State} {cur : Cursor}

/-- Wherever a scan comes by, it has scanned the text before as if there was no more. -/
theorem finalState_before (hreads : ReadsLiterals plan.options plan.delims)
    (hstops : plan.stops = plan.options.stops) (h : plan.Reaches input s cur) :
    plan.finalState cur.before = s.ensureToken := by
  by_cases hrest : cur.rest = []
  · have htext : cur.before ++ String.ofList cur.rest = input := h.text
    have hbefore : cur.before = input := by
      rwa [hrest, String.ofList_nil, String.append_empty] at htext
    rw [hbefore]
    exact finalState_eq h (step_of_rest_nil hrest)
  · exact finalState_in_front hreads hstops h hrest

theorem finished_cutState (hleft : plan.options.preserveDelimiters = false) (s : State)
    (cur : Cursor) (matched : String) (width : Nat) :
    (plan.cutState s cur matched width).buffer.finished =
      s.buffer.finished.push (s.buffer.current.getD {}) := by
  unfold cutState
  dsimp only
  rw [if_neg (by simp [hleft])]
  split <;> rfl

section Plain

variable (hplain : CutsPlainly plan.options plan.delims) (hstops : plan.stops = [])

include hplain hstops

/-- What a scan has gathered by a place outside of blocks is what it had by its last cut, and what
the text behind that cut is scanned to. -/
theorem exists_uncut_tail (h : plan.Reaches input s cur) :
    ∃ head front tail, s.ensureToken = (plan.finalState tail).behind head front ∧
      (plan.finalState tail).cuts = #[] := by
  have hbefore := finalState_before hplain.readsLiterals (hstops.trans hplain.stops.symm) h
  obtain ⟨t, hreach, hlast⟩ := exists_reaches_end hstops cur.before
  obtain ⟨t', head, place, hspent⟩ := exists_spent hplain.delims_ne_nil hreach rfl
  have htail := hspent.finalState_eq fun hreach =>
    step_behind (hplain.forward hstops) hreach.comments_ne_nil _ _ _
  refine ⟨head, place.before, String.ofList place.rest, hbefore.symm.trans htail, ?_⟩
  -- All cuts are there by the last one.
  have hall : t.ensureToken.cuts.size = head.cuts.size := hspent.cuts.symm
  rw [← hlast, htail] at hall
  have hsum := hall.symm.trans (Array.size_append ..)
  exact Array.eq_empty_of_size_eq_zero (by omega)

omit hstops in
/-- A text without a cut is its only token. -/
theorem exists_token_of_uncut {text : String} (hcuts : (plan.finalState text).cuts = #[])
    (hgoes : (plan.finalState text).stop = none) :
    (plan.finalState text).cutsAt = #[] ∧
      ∃ token, (plan.finalState text).buffer.tokens = #[token] ∧ token.text = text := by
  have hcutsAt : (plan.finalState text).cutsAt = #[] := by
    rw [cuts_finalState hplain.delims_ne_nil] at hcuts
    exact Array.map_eq_empty_iff.mp hcuts
  have hfinished : (plan.finalState text).buffer.finished = #[] := by
    rw [← Array.size_eq_zero_iff, size_finished_finalState, hcuts]
    rfl
  obtain ⟨token, spans, htokens, hremains⟩ :=
    plan.exists_remains_of_uncut hplain.delims_ne_nil text hfinished hcutsAt hgoes
  refine ⟨hcutsAt, token, htokens, ?_⟩
  -- There are no comments to leave out.
  obtain ⟨opened, hlaid⟩ := hremains.laid
  rw [hremains.text_eq_iff, hremains.comments, Span.commentTexts_eq_nil_iff]
  exact (hlaid.kind_ne_opening hplain.comments).2

/-- A token that ends outside of blocks is scanned by itself as in the middle of the text. -/
theorem whole_current (h : plan.Reaches input s cur) (hnesting : s.nesting = []) :
    (s.buffer.current.getD {}).Whole plan := by
  obtain ⟨xs, htiled⟩ := exists_tiled h
  obtain ⟨head, front, tail, hensured, hcuts⟩ := exists_uncut_tail hplain hstops h
  have hgoes : (plan.finalState tail).stop = none :=
    (congrArg State.stop hensured).symm.trans htiled.stop
  have hclosed : (plan.finalState tail).nesting = [] :=
    (congrArg State.nesting hensured).symm.trans hnesting
  have hcurrent : (plan.finalState tail).buffer.current = some (s.buffer.current.getD {}) :=
    (congrArg (·.buffer.current) hensured).symm
  obtain ⟨hcutsAt, token, htokens, rfl⟩ := exists_token_of_uncut hplain hcuts hgoes
  have hlast : s.buffer.current.getD {} = token := by
    have hback := congrArg Array.back? htokens
    rw [tokens_finalState, Array.back?_push, hcurrent] at hback
    exact Option.some.inj hback
  rw [hlast]
  exact ⟨hclosed, htokens, hcuts, hcutsAt⟩

/-- A cut finishes the current token as it is, and nothing else finishes a token. -/
theorem whole_of_mem_finished (h : plan.Reaches input s cur) :
    ∀ token ∈ s.buffer.finished, token.Whole plan := by
  refine h.induct (motive := fun s _ => ∀ token ∈ s.buffer.finished, token.Whole plan) nofun ?_
  intro s t cur cur' hreach ih hstep
  by_cases hcuts : t.cuts = s.cuts
  · rwa [finished_of_cuts_eq hstep hcuts]
  · obtain ⟨-, hnesting, c, cs, matched, -, -, rfl, -⟩ :=
      exists_match_of_cut hstep hplain.delims_ne_nil hcuts
    rw [finished_cutState hplain.preserveDelimiters]
    intro token htoken
    rcases Array.mem_push.mp htoken with htoken | rfl
    · exact ih token htoken
    · exact whole_current hplain hstops hreach hnesting

theorem whole_of_mem_tokens (hnesting : (plan.finalState input).nesting = []) :
    ∀ token ∈ (plan.finalState input).buffer.tokens, token.Whole plan := by
  obtain ⟨s, hreach, hfinal⟩ := exists_reaches_end hstops input
  rw [hfinal] at hnesting ⊢
  intro token htoken
  rcases Array.mem_push.mp htoken with htoken | rfl
  · exact whole_of_mem_finished hplain hstops hreach token htoken
  · exact whole_current hplain hstops hreach hnesting

end Plain

end Plan

/-! ## Results -/

variable {options : Options} {delims : List Delimiter}

/-- Tokens are indivisible: the text of each token of a result is scanned to this one token, without
a cut. -/
theorem scan_token (h : CutsPlainly options delims) (input : String) {r : ScanResult}
    (hscan : scan input options delims = .ok r) :
    ∀ token ∈ r.tokens, ∃ r', scan token.text options delims = .ok r' ∧ r'.tokens = #[token] ∧
      r'.cuts = #[] ∧ r'.cutsAt = #[] := by
  let plan : Plan := ⟨options, delims, []⟩
  rw [scan_of_make h.make_eq_ok, State.verdict_eq_ok_iff] at hscan
  obtain ⟨hnesting, rfl⟩ := hscan
  intro token htoken
  have hwhole : token.Whole plan := Plan.whole_of_mem_tokens h rfl hnesting token htoken
  obtain ⟨hclosed, htokens, hcuts, hcutsAt⟩ := hwhole
  rw [scan_of_make h.make_eq_ok, State.verdict_of_nil hclosed]
  exact ⟨_, rfl, htokens, hcuts, hcutsAt⟩

def overlapping : Options where
  blocks := [⟨"<<", ">>"⟩, ⟨"<", ">"⟩]
  quotes := ["''", "'"]
  comments := []
  caseInsensitive := true

/-- The delimiters in the group and in the quotations do not cut the tokens by themselves either. -/
theorem scan_token_overlapping :
    CutsPlainly overlapping ["and", ","] ∧
    ∃ r, scan "b<<a,>>'q,'AND''and',''c," overlapping ["and", ","] = .ok r ∧
      (∀ token ∈ r.tokens, ∃ r', scan token.text overlapping ["and", ","] = .ok r' ∧
        r'.tokens = #[token] ∧ r'.cuts = #[] ∧ r'.cutsAt = #[]) ∧
      r.texts = ["b<<a,>>'q,'", "''and',''c", ""] := by
  have hplain : CutsPlainly overlapping ["and", ","] :=
    ⟨rfl, rfl, rfl, rfl, rfl, by simp, by simp⟩
  refine ⟨hplain, _, rfl, ?_, rfl⟩
  exact scan_token hplain "b<<a,>>'q,'AND''and',''c," rfl

end DelimiterScan
