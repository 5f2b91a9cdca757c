import DelimiterScan.Proofs.Alike
import DelimiterScan.Proofs.Current
import DelimiterScan.Proofs.Cuts
import DelimiterScan.Proofs.Nesting

/-!
# What delimiters see

A scan tries stops and delimiters where it looks for them, one after the other until one matches. A
step that keeps a record of its trials (`Plan.trace`) goes as the step without it
(`outcome_trace`). All trials take place outside of regions, with text ahead; a delimiter sees the
current token as the last one, and a stop sees it if it is begun (`trials_of_scan`). What delimiters
would answer elsewhere makes no difference to a scan.
-/

namespace DelimiterScan

/-! ## Trials -/

/-- A delimiter is tried: it gets the text before, the text ahead and the tokens so far. -/
structure Trial where
  delimiter : Delimiter
  before : String
  rest : String
  tokens : Array Token

def Trial.answer (trial : Trial) (caseInsensitive : Bool) : Option String :=
  trial.delimiter.match? ⟨trial.before, trial.rest.toList⟩ ⟨trial.tokens, none⟩ caseInsensitive

structure Search where
  found : Option String := none
  trials : List Trial := []

namespace Delimiter

def trialAt (d : Delimiter) (cur : Cursor) (buffer : TokenBuffer) : Trial :=
  ⟨d, cur.before, String.ofList cur.rest, buffer.tokens⟩

def search (delims : List Delimiter) (cur : Cursor) (buffer : TokenBuffer)
    (caseInsensitive : Bool) : Search :=
  match delims with
  | [] => {}
  | d :: ds =>
    let trial := d.trialAt cur buffer
    match trial.answer caseInsensitive with
    | some matched => ⟨some matched, [trial]⟩
    | none =>
      let later := search ds cur buffer caseInsensitive
      { later with trials := trial :: later.trials }

end Delimiter

/-- A step with its trials: of stops, then of delimiters. -/
structure Trace where
  outcome : Outcome
  stops : List Trial := []
  delims : List Trial := []

namespace Plan

def traceDelimiter (plan : Plan) (s : State) (cur : Cursor) (c : String) : Trace :=
  let s := s.ensureToken
  let search := Delimiter.search plan.delims cur s.buffer plan.options.caseInsensitive
  match search.found with
  | none => { outcome := .plain s cur c, delims := search.trials }
  | some matched =>
    let width := matchWidth matched c
    { outcome := .advanced (plan.cutState s cur matched width) (cur.advance width)
      delims := search.trials }

def stopSearch (plan : Plan) (s : State) (cur : Cursor) : Search :=
  if s.nesting.isEmpty then
    Delimiter.search plan.stops cur s.buffer plan.options.caseInsensitive
  else {}

def traceText (plan : Plan) (s : State) (cur : Cursor) (c : String) : Trace :=
  let block := plan.blockAt s cur
  let s := s.atBlock block
  let search := plan.stopSearch s cur
  match search.found with
  | some matched =>
    { outcome := .finished { s with stop := some ⟨matched, cur.offset, String.ofList cur.rest⟩ }
      stops := search.trials }
  | none =>
    if plan.delims.isEmpty then { outcome := atBlockEdge s cur block c, stops := search.trials }
    else if s.nesting.isEmpty && !block.isClosing then
      { plan.traceDelimiter s cur c with stops := search.trials }
    else { outcome := .plain s cur (block.marker?.getD c), stops := search.trials }

def traceOn (plan : Plan) (s : State) (cur : Cursor) (quote : Boundary String)
    (comment : Boundary Block) (c : String) : Trace :=
  if s.openComment.isSome || comment.isClosing then { outcome := inComment s cur comment c }
  else if s.openQuote.isSome || quote.isClosing then
    { outcome := .plain s cur (quote.quoteMark?.getD c) }
  else if plan.options.limit = some s.cuts.size then { outcome := .plain s cur c }
  else plan.traceText s cur c

def trace (plan : Plan) (s : State) (cur : Cursor) : Trace :=
  match cur.rest with
  | [] => { outcome := .finished s }
  | c :: _ =>
    let quote := plan.quoteAt s cur
    let s := s.atQuote quote
    let comment := plan.commentAt s cur
    plan.traceOn (s.atComment comment) cur quote comment c.toString

end Plan

/-! ## A record changes nothing -/

variable {plan : Plan} {input : String} {s t : State} {cur : Cursor} {trial : Trial}

namespace Delimiter

variable {ds : List Delimiter} {d : Delimiter} {buffer : TokenBuffer} {caseInsensitive : Bool}

/-- A trial holds all that the answer depends on. -/
theorem answer_trialAt (d : Delimiter) (cur : Cursor) (buffer : TokenBuffer)
    (caseInsensitive : Bool) :
    (d.trialAt cur buffer).answer caseInsensitive = d.match? cur buffer caseInsensitive := by
  cases d <;> simp only [Trial.answer, trialAt, match?, String.toList_ofList]
  rfl

theorem found_search (ds : List Delimiter) (cur : Cursor) (buffer : TokenBuffer)
    (caseInsensitive : Bool) :
    (search ds cur buffer caseInsensitive).found =
      firstMatch? ds cur buffer caseInsensitive := by
  induction ds with
  | nil => rfl
  | cons d ds ih =>
    rw [firstMatch?, List.findSome?_cons, search, ← answer_trialAt]
    cases (d.trialAt cur buffer).answer caseInsensitive with
    | some matched => rfl
    | none => exact ih

theorem exists_of_mem_trials
    (h : trial ∈ (search ds cur buffer caseInsensitive).trials) :
    ∃ d ∈ ds, trial = d.trialAt cur buffer := by
  induction ds with
  | nil => cases h
  | cons d ds ih =>
    rw [search] at h
    cases hanswer : (d.trialAt cur buffer).answer caseInsensitive with
    | some matched =>
      rw [hanswer] at h
      exact ⟨d, List.mem_cons_self, List.mem_singleton.mp h⟩
    | none =>
      rw [hanswer] at h
      rcases List.mem_cons.mp h with rfl | h
      · exact ⟨d, List.mem_cons_self, rfl⟩
      · obtain ⟨e, he, htrial⟩ := ih h
        exact ⟨e, List.mem_cons_of_mem d he, htrial⟩

end Delimiter

namespace Plan

theorem outcome_traceDelimiter (plan : Plan) (s : State) (cur : Cursor) (c : String) :
    (plan.traceDelimiter s cur c).outcome = plan.atDelimiter s cur c := by
  unfold traceDelimiter
  dsimp only
  rw [Delimiter.found_search]
  cases hmatch : Delimiter.firstMatch? plan.delims cur s.ensureToken.buffer
      plan.options.caseInsensitive with
  | none => rw [atDelimiter_of_no_match hmatch]
  | some matched =>
    rw [atDelimiter_of_match hmatch]
    rfl

theorem found_stopSearch (plan : Plan) (s : State) (cur : Cursor) :
    (plan.stopSearch s cur).found = plan.stop? s cur := by
  unfold stopSearch stop?
  split
  · exact Delimiter.found_search ..
  · rfl

theorem outcome_traceText (plan : Plan) (s : State) (cur : Cursor) (c : String) :
    (plan.traceText s cur c).outcome = plan.inText s cur c := by
  rw [inText_eq]
  unfold traceText
  dsimp only
  rw [found_stopSearch]
  cases plan.stop? (s.atBlock (plan.blockAt s cur)) cur with
  | some matched => rfl
  | none =>
    dsimp only
    split
    · rfl
    · split
      · exact outcome_traceDelimiter ..
      · rfl

theorem outcome_traceOn (plan : Plan) (s : State) (cur : Cursor) (quote : Boundary String)
    (comment : Boundary Block) (c : String) :
    (plan.traceOn s cur quote comment c).outcome = plan.proceed s cur quote comment c := by
  unfold traceOn proceed
  split
  · rfl
  · split
    · rfl
    · split
      · rfl
      · exact outcome_traceText ..

theorem trace_eq {c : Char} {cs : List Char} (hrest : cur.rest = c :: cs) :
    plan.trace s cur =
      plan.traceOn ((s.atQuote (plan.quoteAt s cur)).atComment
        (plan.commentAt (s.atQuote (plan.quoteAt s cur)) cur)) cur (plan.quoteAt s cur)
        (plan.commentAt (s.atQuote (plan.quoteAt s cur)) cur) c.toString := by
  simp only [trace, hrest]

/-- A step goes as it does without a record of its trials. -/
theorem outcome_trace (plan : Plan) (s : State) (cur : Cursor) :
    (plan.trace s cur).outcome = plan.step s cur := by
  cases hrest : cur.rest with
  | nil =>
    rw [step_of_rest_nil hrest, trace, hrest]
  | cons c cs => rw [trace_eq hrest, outcome_traceOn, step_eq hrest]

/-! ## Where trials take place -/

/-- Where nothing begins or ends and nothing is open, a scan looks for more, as far as it may. -/
theorem looks_of_none (hquote : plan.quoteAt s cur = .none)
    (hcomment : plan.commentAt s cur = .none) (hidle : s.Idle)
    (hlimit : plan.options.limit ≠ some s.cuts.size) : plan.Looks s cur.rest := by
  refine ⟨hidle, ?_, ?_, hlimit⟩
  · rw [quoteAt, hidle.openComment, hidle.openQuote, Boundary.ofQuotes] at hquote
    cases hfind : plan.options.quotes.find? (Boundary.marked cur.rest) with
    | none => exact hfind
    | some mark => simp [hfind] at hquote
  · rw [commentAt, hidle.openComment, hidle.openQuote, Boundary.ofComments] at hcomment
    cases hfind : plan.options.comments.find? (Boundary.marked cur.rest ·.start) with
    | none => exact hfind
    | some k => simp [hfind] at hcomment

/-- A step with trials is one that looks for more. -/
theorem trace_cases (plan : Plan) (s : State) {c : Char} {cs : List Char}
    (hrest : cur.rest = c :: cs) :
    ((plan.trace s cur).stops = [] ∧ (plan.trace s cur).delims = []) ∨
      plan.Looks s cur.rest ∧ plan.trace s cur = plan.traceText s cur c.toString := by
  rw [trace_eq hrest]
  generalize hquote : plan.quoteAt s cur = quote
  generalize hcomment : plan.commentAt (s.atQuote quote) cur = comment
  unfold traceOn
  split
  · exact .inl ⟨rfl, rfl⟩
  next hnoComment =>
  split
  · exact .inl ⟨rfl, rfl⟩
  next hnoQuote =>
  split
  · exact .inl ⟨rfl, rfl⟩
  next hlimit =>
  -- What begins would be open, and what ends has been seen to.
  cases quote with
  | opens mark => cases comment <;> simp [State.atComment, State.atQuote] at hnoQuote
  | closes mark => simp [Boundary.isClosing] at hnoQuote
  | none =>
    cases comment with
    | opens k => simp [State.atComment] at hnoComment
    | closes k => simp [Boundary.isClosing] at hnoComment
    | none =>
      have hidle : s.Idle := by
        constructor
        · simpa [State.atComment, State.atQuote, Boundary.isClosing] using hnoQuote
        · simpa [State.atComment, State.atQuote, Boundary.isClosing] using hnoComment
      exact .inr ⟨looks_of_none hquote hcomment hidle hlimit, rfl⟩

theorem stops_traceText (plan : Plan) (s : State) (cur : Cursor) (c : String) :
    (plan.traceText s cur c).stops =
      (plan.stopSearch (s.atBlock (plan.blockAt s cur)) cur).trials := by
  unfold traceText
  dsimp only
  split
  · rfl
  · split
    · rfl
    · split <;> rfl

/-- Stops are tried outside of blocks, also where the outermost one has just closed. -/
theorem exists_of_mem_stops {c : String} (h : trial ∈ (plan.traceText s cur c).stops) :
    ((s.nesting = [] ∧ plan.blockAt s cur = .none) ∨
      ∃ k, s.nesting = [k] ∧ plan.blockAt s cur = .closes k) ∧
    ∃ d ∈ plan.stops, trial = d.trialAt cur s.buffer := by
  rw [stops_traceText, stopSearch] at h
  split at h
  · next hflat =>
    refine ⟨?_, State.buffer_atBlock s _ ▸ Delimiter.exists_of_mem_trials h⟩
    rw [List.isEmpty_iff] at hflat
    cases hblock : plan.blockAt s cur with
    | none =>
      rw [hblock] at hflat
      exact .inl ⟨hflat, rfl⟩
    | opens k =>
      rw [hblock] at hflat
      cases hflat
    | closes k =>
      obtain ⟨⟨outer, hs⟩, -⟩ := Boundary.closes_of_ofBlocks hblock
      rw [hblock] at hflat
      obtain rfl : outer = [] := by
        rw [State.atBlock, hs] at hflat
        exact hflat
      exact .inr ⟨k, hs, rfl⟩
  · cases h

theorem delims_traceDelimiter (plan : Plan) (s : State) (cur : Cursor) (c : String) :
    (plan.traceDelimiter s cur c).delims =
      (Delimiter.search plan.delims cur s.ensureToken.buffer
        plan.options.caseInsensitive).trials := by
  unfold traceDelimiter
  dsimp only
  split <;> rfl

/-- Delimiters are tried outside of blocks where none closes, with the current token begun. -/
theorem exists_of_mem_delims {c : String} (h : trial ∈ (plan.traceText s cur c).delims) :
    s.nesting = [] ∧ plan.blockAt s cur = .none ∧
      ∃ d ∈ plan.delims, trial = d.trialAt cur s.ensureToken.buffer := by
  unfold traceText at h
  dsimp only at h
  split at h
  · cases h
  split at h
  · cases h
  split at h
  · next hflat =>
    rw [Bool.and_eq_true, List.isEmpty_iff] at hflat
    have hblock : plan.blockAt s cur = .none := blockAt_eq_none hflat.1 (by simpa using hflat.2)
    rw [hblock, delims_traceDelimiter] at h
    rw [hblock] at hflat
    exact ⟨hflat.1, hblock, Delimiter.exists_of_mem_trials h⟩
  · cases h

/-! ## What is seen there -/

/-- The last token is the current one, which holds the visible text since the last split. -/
structure SeesCurrent (plan : Plan) (input : String) (s : State) (cur : Cursor)
    (tokens : Array Token) : Prop where
  size : tokens.size = s.cuts.size + 1
  last : tokens.back? = some (s.buffer.current.getD {})
  visible : plan.Since input s cur (s.buffer.current.getD {}).text

/-- A trial where the scan of `input` comes by `s` at `cur`: it gets the text before and the text
ahead of this place, which is not the end, where no quotation and no comment is open and there are
cuts left. -/
structure TrialAt (plan : Plan) (input : String) (s : State) (cur : Cursor) (trial : Trial) :
    Prop where
  before : trial.before = cur.before
  rest : trial.rest = String.ofList cur.rest
  text : trial.before ++ trial.rest = input
  boundary : Text.IsBoundary input cur.offset
  ahead : cur.offset < input.utf8ByteSize
  looks : plan.Looks s cur.rest
  limit : ∀ n ∈ plan.options.limit, s.cuts.size < n
  given : ∀ p, trial.delimiter = .predicate p → ∀ caseInsensitive,
    trial.answer caseInsensitive = p.test trial.before trial.rest trial.tokens

/-- A delimiter is tried outside of blocks where none closes, and sees the current token. -/
structure TriesDelimiter (plan : Plan) (input : String) (s : State) (cur : Cursor)
    (trial : Trial) : Prop extends TrialAt plan input s cur trial where
  mem : trial.delimiter ∈ plan.delims
  nesting : s.nesting = []
  block : plan.blockAt s cur = .none
  tokens : SeesCurrent plan input s cur trial.tokens

/-- A stop is tried outside of blocks, where one may have closed. If it does not see the current
token, this is not begun, and nothing is visible since the last split. -/
structure TriesStop (plan : Plan) (input : String) (s : State) (cur : Cursor) (trial : Trial) :
    Prop extends TrialAt plan input s cur trial where
  mem : trial.delimiter ∈ plan.stops
  block : (s.nesting = [] ∧ plan.blockAt s cur = .none) ∨
    ∃ k, s.nesting = [k] ∧ plan.blockAt s cur = .closes k
  tokens : SeesCurrent plan input s cur trial.tokens ∨
    (trial.tokens.size = s.cuts.size ∧ s.buffer.current = none ∧ plan.Since input s cur "")

theorem trialAt_of_looks {buffer : TokenBuffer} (h : plan.Reaches input s cur)
    (hlooks : plan.Looks s cur.rest) (hrest : cur.rest ≠ []) (d : Delimiter) :
    TrialAt plan input s cur (d.trialAt cur buffer) := by
  have htext : cur.before ++ String.ofList cur.rest = input := h.text
  refine ⟨rfl, rfl, htext, ?_, ?_, hlooks, ?_, ?_⟩
  · rw [← h.text]
    exact cur.isBoundary_offset
  · have hpos : 0 < Text.byteSize cur.rest := Text.byteSize_pos hrest
    rw [← h.text, cur.utf8ByteSize_text]
    omega
  · intro n hn
    have hle := h.noted.limit n hn
    have hne : n ≠ s.cuts.size := by
      rintro rfl
      exact hlooks.limit hn
    omega
  · intro p hp caseInsensitive
    cases hp
    rw [Delimiter.answer_trialAt]
    rfl

theorem seesCurrent_of_push (h : plan.Reaches input s cur) {tokens : Array Token}
    (htokens : tokens = s.buffer.finished.push (s.buffer.current.getD {})) :
    SeesCurrent plan input s cur tokens where
  size := by rw [htokens, Array.size_push, h.aligned.finished]
  last := by rw [htokens, Array.back?_push]
  visible := h.since

theorem exists_looks_of_mem_trace
    (h : trial ∈ (plan.trace s cur).stops ∨ trial ∈ (plan.trace s cur).delims) :
    cur.rest ≠ [] ∧ plan.Looks s cur.rest ∧
      ∃ c, plan.trace s cur = plan.traceText s cur c := by
  cases hrest : cur.rest with
  | nil => simp [trace, hrest] at h
  | cons c cs =>
    rcases plan.trace_cases s hrest with ⟨hstops, hdelims⟩ | ⟨hlooks, htrace⟩
    · simp [hstops, hdelims] at h
    · rw [hrest] at hlooks
      exact ⟨List.cons_ne_nil c cs, hlooks, _, htrace⟩

theorem triesDelimiter_of_mem (h : plan.Reaches input s cur)
    (hmem : trial ∈ (plan.trace s cur).delims) : TriesDelimiter plan input s cur trial := by
  obtain ⟨hrest, hlooks, c, htrace⟩ := exists_looks_of_mem_trace (.inr hmem)
  rw [htrace] at hmem
  obtain ⟨hnesting, hblock, d, hd, rfl⟩ := exists_of_mem_delims hmem
  exact ⟨trialAt_of_looks h hlooks hrest d, hd, hnesting, hblock, seesCurrent_of_push h rfl⟩

theorem triesStop_of_mem (h : plan.Reaches input s cur)
    (hmem : trial ∈ (plan.trace s cur).stops) : TriesStop plan input s cur trial := by
  obtain ⟨hrest, hlooks, c, htrace⟩ := exists_looks_of_mem_trace (.inl hmem)
  rw [htrace] at hmem
  obtain ⟨hblock, d, hd, rfl⟩ := exists_of_mem_stops hmem
  refine ⟨trialAt_of_looks h hlooks hrest d, hd, hblock, ?_⟩
  cases hcurrent : s.buffer.current with
  | none =>
    have hsince := h.since
    rw [State.currentText, hcurrent] at hsince
    refine .inr ⟨?_, rfl, hsince⟩
    rw [Delimiter.trialAt, TokenBuffer.tokens, hcurrent]
    exact h.aligned.finished
  | some token =>
    refine .inl (seesCurrent_of_push h ?_)
    rw [Delimiter.trialAt, TokenBuffer.tokens, hcurrent]
    rfl

end Plan

/-! ## Delimiters that answer alike -/

/-- Delimiters that answer alike wherever a scan of `input` may try them: the same ones, or
predicates that agree on every text before and text ahead that make up the input, where there is
text ahead and a token. -/
inductive Delimiter.AlikeOn (input : String) : Delimiter → Delimiter → Prop
  | same (d : Delimiter) : AlikeOn input d d
  | predicates {p q : Predicate} (h : ∀ before rest tokens, before ++ rest = input → rest ≠ "" →
      tokens ≠ #[] → p.test before rest tokens = q.test before rest tokens) :
      AlikeOn input (.predicate p) (.predicate q)

namespace Delimiter

variable {d e : Delimiter} {ds es : List Delimiter} {buffer : TokenBuffer}

theorem AlikeOn.match?_eq (h : AlikeOn cur.text d e) (hrest : cur.rest ≠ [])
    (htokens : buffer.tokens ≠ #[]) (caseInsensitive : Bool) :
    d.match? cur buffer caseInsensitive = e.match? cur buffer caseInsensitive := by
  cases h with
  | same => rfl
  | predicates h => exact h _ _ _ rfl (by simpa using hrest) htokens

theorem firstMatch?_alikeOn (h : List.Forall₂ (AlikeOn cur.text) ds es) (hrest : cur.rest ≠ [])
    (htokens : buffer.tokens ≠ #[]) (caseInsensitive : Bool) :
    firstMatch? ds cur buffer caseInsensitive = firstMatch? es cur buffer caseInsensitive := by
  induction h with
  | nil => rfl
  | cons hd _ ih =>
    rw [firstMatch?, firstMatch?, List.findSome?_cons, List.findSome?_cons,
      hd.match?_eq hrest htokens]
    split
    · rfl
    · exact ih

/-- Where literals are read as patterns, predicates stay. -/
theorem AlikeOn.resolved (h : AlikeOn input d e) (flags : Option Regex.Flags) :
    (∃ fault, d.resolved flags = .error fault ∧ e.resolved flags = .error fault) ∨
      ∃ d' e', d.resolved flags = .ok d' ∧ e.resolved flags = .ok e' ∧ AlikeOn input d' e' := by
  cases h with
  | same =>
    cases hd : d.resolved flags with
    | error fault => exact .inl ⟨fault, rfl, rfl⟩
    | ok d' => exact .inr ⟨d', d', rfl, rfl, .same d'⟩
  | predicates h => cases flags <;> exact .inr ⟨_, _, rfl, rfl, .predicates h⟩

end Delimiter

namespace Plan

variable {options : Options} {ds es : List Delimiter}

theorem resolve_alikeOn (h : List.Forall₂ (Delimiter.AlikeOn input) ds es)
    (flags : Option Regex.Flags) :
    (∃ fault, resolve flags ds = .error fault ∧ resolve flags es = .error fault) ∨
      ∃ ds' es', resolve flags ds = .ok ds' ∧ resolve flags es = .ok es' ∧
        List.Forall₂ (Delimiter.AlikeOn input) ds' es' := by
  simp only [resolve_eq_mapM]
  induction h with
  | nil => exact .inr ⟨[], [], rfl, rfl, .nil⟩
  | cons hd _ ih =>
    simp only [List.mapM_cons]
    rcases hd.resolved flags with ⟨fault, hd, he⟩ | ⟨d', e', hd, he, halike⟩
    · exact .inl ⟨fault, by rw [hd]; rfl, by rw [he]; rfl⟩
    rcases ih with ⟨fault, hds, hes⟩ | ⟨ds', es', hds, hes, hall⟩
    · exact .inl ⟨fault, by rw [hd, hds]; rfl, by rw [he, hes]; rfl⟩
    · exact .inr ⟨d' :: ds', e' :: es', by rw [hd, hds]; rfl, by rw [he, hes]; rfl,
        .cons halike hall⟩

def replaced (plan : Plan) (delims : List Delimiter) : Plan := { plan with delims }

/-- Requests with delimiters that answer alike fail with the same error, or their plans differ in
these delimiters. -/
theorem make_alikeOn (h : List.Forall₂ (Delimiter.AlikeOn input) ds es) (options : Options) :
    (∃ e, Plan.make options ds = .error e ∧ Plan.make options es = .error e) ∨
      ∃ plan es', Plan.make options ds = .ok plan ∧ Plan.make options es = .ok (plan.replaced es') ∧
        List.Forall₂ (Delimiter.AlikeOn input) plan.delims es' := by
  unfold Plan.make
  rcases resolve_alikeOn h options.useRegex with ⟨fault, hds, hes⟩ | ⟨ds', es', hds, hes, hall⟩
  · exact .inl ⟨fault, by rw [hds]; rfl, by rw [hes]; rfl⟩
  rw [hds, hes]
  cases resolve options.useRegex options.stops with
  | error fault => exact .inl ⟨fault, rfl, rfl⟩
  | ok stops => exact .inr ⟨⟨options, ds', stops⟩, es', rfl, rfl, hall⟩

/-- A step tries delimiters with text ahead and a token only, so others that answer alike there take
the same step. -/
theorem step_replaced (h : List.Forall₂ (Delimiter.AlikeOn cur.text) plan.delims es) (s : State) :
    (plan.replaced es).step s cur = plan.step s cur := by
  cases hrest : cur.rest with
  | nil => rw [step_of_rest_nil hrest, step_of_rest_nil hrest]
  | cons c cs =>
    have hempty : (plan.replaced es).delims.isEmpty = plan.delims.isEmpty := by
      show es.isEmpty = plan.delims.isEmpty
      rw [Bool.eq_iff_iff, List.isEmpty_iff_length_eq_zero, List.isEmpty_iff_length_eq_zero,
        h.length_eq]
    have hdelimiter : ∀ t, (plan.replaced es).atDelimiter t cur c.toString =
        plan.atDelimiter t cur c.toString := by
      intro t
      have htokens : t.ensureToken.buffer.tokens ≠ #[] := Array.push_ne_empty
      have hfirst := Delimiter.firstMatch?_alikeOn h (hrest ▸ List.cons_ne_nil c cs) htokens
        plan.options.caseInsensitive
      cases hmatch : Delimiter.firstMatch? plan.delims cur t.ensureToken.buffer
          plan.options.caseInsensitive with
      | none =>
        rw [atDelimiter_of_no_match hmatch]
        exact atDelimiter_of_no_match (hfirst.symm.trans hmatch)
      | some matched =>
        rw [atDelimiter_of_match hmatch]
        exact atDelimiter_of_match (hfirst.symm.trans hmatch)
    have htext : ∀ t, (plan.replaced es).inText t cur c.toString =
        plan.inText t cur c.toString := by
      intro t
      rw [inText_eq, inText_eq, hempty, hdelimiter]
      rfl
    rw [step_eq hrest, step_eq hrest]
    unfold proceed
    simp only [htext]
    rfl

theorem finalState_replaced (h : List.Forall₂ (Delimiter.AlikeOn input) plan.delims es) :
    (plan.replaced es).finalState input = plan.finalState input := by
  have hsame : ∀ {s cur}, plan.Reaches input s cur →
      (plan.replaced es).step s cur = plan.step s cur :=
    fun hreach => step_replaced (hreach.text.symm ▸ h) _
  obtain ⟨s, cur, t, hreach, hend, hfinal⟩ := plan.exists_reaches_finished input
  have hreach' : (plan.replaced es).Reaches input s cur :=
    hreach.induct (motive := fun s cur => (plan.replaced es).Reaches input s cur) .start
      fun hreach ih hstep => ih.step ((hsame hreach).trans hstep)
  rw [finalState_eq hreach' ((hsame hreach).trans hend), hfinal]

end Plan

/-! ## Results -/

/-- Delimiters and stops are tried outside of regions, with text ahead and cuts left, and see the
tokens as they are there. So it makes no difference to a scan what predicates answer elsewhere. -/
theorem trials_of_scan (input : String) (options : Options) (delims : List Delimiter) :
    (∀ plan, Plan.make options delims = .ok plan → ∀ s cur, plan.Reaches input s cur →
      (plan.trace s cur).outcome = plan.step s cur ∧
      (∀ trial ∈ (plan.trace s cur).delims, plan.TriesDelimiter input s cur trial) ∧
      ∀ trial ∈ (plan.trace s cur).stops, plan.TriesStop input s cur trial) ∧
    ∀ delims', List.Forall₂ (Delimiter.AlikeOn input) delims delims' →
      SameOutcome (scan input options delims) (scan input options delims') := by
  refine ⟨fun plan _ s cur h => ⟨plan.outcome_trace s cur, ?_, ?_⟩, fun delims' halike => ?_⟩
  · exact fun trial => Plan.triesDelimiter_of_mem h
  · exact fun trial => Plan.triesStop_of_mem h
  · rcases Plan.make_alikeOn halike options with
      ⟨e, hmake, hmake'⟩ | ⟨plan, es, hmake, hmake', hall⟩
    · rw [scan_of_make_error hmake, scan_of_make_error hmake']
      exact .failed e
    · exact .of_finalState hmake hmake' (Plan.finalState_replaced hall).symm

/-- Stands where `thirdToken` does, and where there is no text ahead. -/
def thirdTokenOrEnd : Predicate where
  identity := 4
  test _ rest tokens := if tokens.size = 3 ∨ rest = "" then some "" else none

def thirdPlan : Plan := ⟨{ stops := [";"] }, [",", .predicate thirdToken], [";"]⟩

/-- Behind two cuts the stop does not see the third token, and the predicate sees it. -/
theorem trials_behind_two_cuts :
    ∃ s cur stop delimiter, thirdPlan.Reaches "a,b,cde" s cur ∧
      stop ∈ (thirdPlan.trace s cur).stops ∧ thirdPlan.TriesStop "a,b,cde" s cur stop ∧
      stop.tokens = #[⟨"a", []⟩, ⟨"b", []⟩] ∧
      delimiter ∈ (thirdPlan.trace s cur).delims ∧
      thirdPlan.TriesDelimiter "a,b,cde" s cur delimiter ∧
      delimiter = ⟨.predicate thirdToken, "a,b,", "cde", #[⟨"a", []⟩, ⟨"b", []⟩, ⟨"", []⟩]⟩ ∧
      SameOutcome (scan "a,b,cde" { stops := [";"] } [",", .predicate thirdToken])
        (scan "a,b,cde" { stops := [";"] } [",", .predicate thirdTokenOrEnd]) := by
  have halike : List.Forall₂ (Delimiter.AlikeOn "a,b,cde") [",", .predicate thirdToken]
      [",", .predicate thirdTokenOrEnd] := by
    refine .cons (.same _) (.cons (.predicates fun before rest tokens _ hrest _ => ?_) .nil)
    simp [thirdToken, thirdTokenOrEnd, hrest]
  have hreach : thirdPlan.Reaches "a,b,cde"
      { buffer := ⟨#[⟨"a", []⟩, ⟨"b", []⟩], none⟩, cuts := #[some ",", some ","],
        cutsAt := #[(1, ","), (3, ",")] } ⟨"a,b,", ['c', 'd', 'e']⟩ :=
    (((Plan.Reaches.start.step rfl).step rfl).step rfl).step rfl
  obtain ⟨htrials, hsame⟩ :=
    trials_of_scan "a,b,cde" { stops := [";"] } [",", .predicate thirdToken]
  obtain ⟨-, hdelims, hstops⟩ := htrials thirdPlan rfl _ _ hreach
  exact ⟨_, _, _, _, hreach, .head _, hstops _ (.head _), rfl, .tail _ (.head _),
    hdelims _ (.tail _ (.head _)), rfl, hsame _ halike⟩

end DelimiterScan
