import DelimiterScan.Proofs.Alike
import DelimiterScan.Proofs.Cuts
import DelimiterScan.Proofs.Tiling

/-!
# Delimiters that are kept

A scan that keeps delimiters takes the same steps as one that does not, as long as no predicate
looks at the tokens. Behind each cut what the cut has passed stands at the end of the token before
it, and nothing else is different. `TokenBuffer.Retains` relates the tokens of both scans; every
step keeps it (`retains_step`), so it holds along both runs, and `scan_keeping` says it of the
results.
-/

namespace DelimiterScan

variable {plan : Plan} {input : String} {s : State} {b b' : TokenBuffer} {cur : Cursor}
  {noted : Array (Nat × String)}

/-! ## Tokens with and without delimiters -/

namespace TokenBuffer

/-- The tokens `b'` are those of `b`, but each finished one has at its end what the cut behind it
has passed. -/
structure Retains (input : String) (noted : Array (Nat × String)) (b b' : TokenBuffer) : Prop where
  size : b.finished.size = noted.size
  finished : ∃ pieces, List.Forall₂ (Consumed input) noted.toList pieces ∧
    b'.finished.toList = List.zipWith Token.addText b.finished.toList pieces
  current : b'.current.getD {} = b.current.getD {}

namespace Retains

theorem start (input : String) : Retains input #[] {} {} := ⟨rfl, ⟨[], .nil, rfl⟩, rfl⟩

/-- The same change of the current token on both sides. -/
theorem modify (h : Retains input noted b b') (f : Token → Token) :
    Retains input noted (b.modify f) (b'.modify f) := by
  refine ⟨h.size, h.finished, ?_⟩
  show f (b'.current.getD {}) = f (b.current.getD {})
  rw [h.current]

/-- It makes no difference whether a token that nothing was written to has been begun. -/
theorem ensure_left (h : Retains input noted b b') : Retains input noted b.ensure b' :=
  ⟨h.size, h.finished, h.current⟩

/-- A cut leaves what it passes on one side and drops it on the other. -/
theorem cut {m : Nat × String} {piece : String} (h : Retains input noted b b')
    (hm : Consumed input m piece) :
    Retains input (noted.push m) b.cut (b'.modify (·.addText piece)).cut := by
  obtain ⟨hsize, ⟨pieces, hpieces, hfinished⟩, hcurrent⟩ := h
  refine ⟨?_, ⟨pieces ++ [piece], ?_, ?_⟩, rfl⟩
  · simp [hsize]
  · rw [Array.toList_push]
    exact List.rel_append hpieces (.cons hm .nil)
  · have hlength : b.finished.toList.length = pieces.length := hsize.trans hpieces.length_eq
    rw [finished_cut, finished_cut, Array.toList_push, Array.toList_push,
      List.zipWith_append hlength, finished_modify, hfinished, current_modify, Option.getD_some,
      hcurrent]
    rfl

end Retains

end TokenBuffer

def State.withBuffer (s : State) (b : TokenBuffer) : State := { s with buffer := b }

namespace State

theorem atQuote_withBuffer (s : State) (b : TokenBuffer) (quote : Boundary String) :
    (s.withBuffer b).atQuote quote = (s.atQuote quote).withBuffer b := by
  cases quote <;> rfl

theorem atComment_withBuffer (s : State) (b : TokenBuffer) (comment : Boundary Block) :
    (s.withBuffer b).atComment comment = (s.atComment comment).withBuffer b := by
  cases comment <;> rfl

theorem atBlock_withBuffer (s : State) (b : TokenBuffer) (block : Boundary Block) :
    (s.withBuffer b).atBlock block = (s.atBlock block).withBuffer b := by
  cases block <;> rfl

end State

/-- Both outcomes are of one kind and at one place, and nothing but tokens differs. -/
inductive Outcome.Retains (input : String) : Outcome → Outcome → Prop
  | advanced {s : State} {b : TokenBuffer} {cur : Cursor} (h : s.buffer.Retains input s.cutsAt b) :
      Retains input (.advanced s cur) (.advanced (s.withBuffer b) cur)
  | finished {s : State} {b : TokenBuffer} (h : s.buffer.Retains input s.cutsAt b) :
      Retains input (.finished s) (.finished (s.withBuffer b))

/-- A search without predicates does not look at tokens. -/
theorem Delimiter.firstMatch?_of_no_predicate {ds : List Delimiter} (h : ∀ p, .predicate p ∉ ds)
    (cur : Cursor) (b b' : TokenBuffer) (caseInsensitive : Bool) :
    firstMatch? ds cur b caseInsensitive = firstMatch? ds cur b' caseInsensitive := by
  refine findSome?_congr fun d hd => ?_
  cases d with
  | literal text => rfl
  | pattern p => rfl
  | predicate p => exact absurd hd (h p)

namespace Plan

def keeping (plan : Plan) : Plan :=
  { plan with options := { plan.options with preserveDelimiters := true } }

theorem make_keeping (options : Options) (delims : List Delimiter) :
    Plan.make { options with preserveDelimiters := true } delims =
      (Plan.make { options with preserveDelimiters := false } delims).map keeping := by
  unfold make
  dsimp only
  cases resolve options.useRegex delims with
  | error e => rfl
  | ok ds => cases resolve options.useRegex options.stops <;> rfl

/-- The plan drops delimiters, has some, and never looks at tokens. -/
structure Droppable (plan : Plan) : Prop where
  preserve : plan.options.preserveDelimiters = false
  nonempty : plan.delims ≠ []
  delims : ∀ p, .predicate p ∉ plan.delims
  stops : ∀ p, .predicate p ∉ plan.stops

/-! ## One step -/

theorem retains_plain (h : s.buffer.Retains input s.cutsAt b) (cur : Cursor) (text : String) :
    Outcome.Retains input (.plain s cur text) (.plain (s.withBuffer b) cur text) :=
  .advanced (h.modify (·.addText text))

theorem retains_inComment (h : s.buffer.Retains input s.cutsAt b) (cur : Cursor)
    (boundary : Boundary Block) (c : String) :
    Outcome.Retains input (inComment s cur boundary c)
      (inComment (s.withBuffer b) cur boundary c) := by
  by_cases hnesting : s.nesting = []
  · have hnesting' : (s.withBuffer b).nesting = [] := hnesting
    rw [inComment_top hnesting, inComment_top hnesting']
    cases boundary with
    | none => exact .advanced (s := s.addComment c) (h.modify (·.addComment c))
    | opens k => exact .advanced (s := s.beginComment) (h.modify Token.beginComment)
    | closes k => exact .advanced h
  · have hnesting' : (s.withBuffer b).nesting ≠ [] := hnesting
    rw [inComment_nested hnesting, inComment_nested hnesting']
    exact retains_plain h cur _

theorem retains_cutState (hpreserve : plan.options.preserveDelimiters = false)
    (h : s.buffer.Retains input s.cutsAt b) {matched : String} {width : Nat}
    (hm : Consumed input (cur.offset, matched) (cur.passed width)) :
    Outcome.Retains input (.advanced (plan.cutState s cur matched width) (cur.advance width))
      (.advanced (plan.keeping.cutState (s.withBuffer b) cur matched width)
        (cur.advance width)) := by
  have hcut := (h.modify id).cut hm
  have hkept : plan.keeping.cutState (s.withBuffer b) cur matched width =
      (plan.cutState s cur matched width).withBuffer
        ((b.modify id).modify (·.addText (cur.passed width))).cut := by
    simp only [cutState, keeping, hpreserve, if_true, Bool.false_eq_true, if_false]
    split <;> rfl
  rw [hkept]
  refine .advanced ?_
  simp only [cutState, hpreserve, Bool.false_eq_true, if_false]
  split
  · exact hcut.ensure_left
  · exact hcut

theorem retains_atDelimiter (hdrop : plan.Droppable) (h : s.buffer.Retains input s.cutsAt b)
    {c : Char} {cs : List Char} (hrest : cur.rest = c :: cs) (htext : cur.text = input) :
    Outcome.Retains input (plan.atDelimiter s cur c.toString)
      (plan.keeping.atDelimiter (s.withBuffer b) cur c.toString) := by
  have hsame := Delimiter.firstMatch?_of_no_predicate hdrop.delims cur
    (s.withBuffer b).ensureToken.buffer s.ensureToken.buffer plan.options.caseInsensitive
  cases hmatch : Delimiter.firstMatch? plan.delims cur s.ensureToken.buffer
      plan.options.caseInsensitive with
  | none =>
    have hmatch' : Delimiter.firstMatch? plan.keeping.delims cur (s.withBuffer b).ensureToken.buffer
        plan.keeping.options.caseInsensitive = none := hsame.trans hmatch
    rw [atDelimiter_of_no_match hmatch, atDelimiter_of_no_match hmatch']
    exact retains_plain (s := s.ensureToken) (h.modify id) cur _
  | some matched =>
    have hmatch' : Delimiter.firstMatch? plan.keeping.delims cur (s.withBuffer b).ensureToken.buffer
        plan.keeping.options.caseInsensitive = some matched := hsame.trans hmatch
    rw [atDelimiter_of_match hmatch, atDelimiter_of_match hmatch']
    exact retains_cutState hdrop.preserve h (htext ▸ consumed_matchWidth hrest matched)

theorem stop?_keeping (hdrop : plan.Droppable) (s : State) (b : TokenBuffer) (cur : Cursor) :
    plan.keeping.stop? (s.withBuffer b) cur = plan.stop? s cur := by
  have hfinds := Delimiter.firstMatch?_of_no_predicate hdrop.stops cur b s.buffer
    plan.options.caseInsensitive
  exact congrArg (fun found => if s.nesting.isEmpty then found else none) hfinds

theorem retains_inText (hdrop : plan.Droppable) (h : s.buffer.Retains input s.cutsAt b)
    {c : Char} {cs : List Char} (hrest : cur.rest = c :: cs) (htext : cur.text = input) :
    Outcome.Retains input (plan.inText s cur c.toString)
      (plan.keeping.inText (s.withBuffer b) cur c.toString) := by
  have hsame : plan.keeping.blockAt (s.withBuffer b) cur = plan.blockAt s cur := rfl
  have hblock : (s.atBlock (plan.blockAt s cur)).buffer.Retains input
      (s.atBlock (plan.blockAt s cur)).cutsAt b := by
    cases plan.blockAt s cur <;> exact h
  have hnonempty : ¬ plan.delims.isEmpty = true := by simpa using hdrop.nonempty
  have hnonempty' : ¬ plan.keeping.delims.isEmpty = true := hnonempty
  rw [inText_eq, inText_eq, hsame, State.atBlock_withBuffer, stop?_keeping hdrop]
  generalize s.atBlock (plan.blockAt s cur) = t at hblock ⊢
  have hnesting : (t.withBuffer b).nesting = t.nesting := rfl
  cases plan.stop? t cur with
  | some matched => exact .finished hblock
  | none =>
    simp only [if_neg hnonempty, if_neg hnonempty', hnesting]
    split
    · exact retains_atDelimiter hdrop hblock hrest htext
    · exact retains_plain hblock cur _

theorem retains_proceed (hdrop : plan.Droppable) (h : s.buffer.Retains input s.cutsAt b)
    {c : Char} {cs : List Char} (hrest : cur.rest = c :: cs) (htext : cur.text = input)
    (quote : Boundary String) (comment : Boundary Block) :
    Outcome.Retains input (plan.proceed s cur quote comment c.toString)
      (plan.keeping.proceed (s.withBuffer b) cur quote comment c.toString) := by
  have hopen : (s.withBuffer b).openComment = s.openComment := rfl
  have hopenQuote : (s.withBuffer b).openQuote = s.openQuote := rfl
  have hlimit : (plan.keeping.options.limit = some (s.withBuffer b).cuts.size) =
    (plan.options.limit = some s.cuts.size) := rfl
  unfold proceed
  simp only [hopen, hopenQuote, hlimit]
  split
  · exact retains_inComment h cur _ _
  · split
    · exact retains_plain h cur _
    · split
      · exact retains_plain h cur _
      · exact retains_inText hdrop h hrest htext

/-- Both scans take the same step. -/
theorem retains_step (hdrop : plan.Droppable) (h : s.buffer.Retains input s.cutsAt b)
    (htext : cur.text = input) :
    Outcome.Retains input (plan.step s cur) (plan.keeping.step (s.withBuffer b) cur) := by
  cases hrest : cur.rest with
  | nil =>
    rw [step_of_rest_nil hrest, step_of_rest_nil hrest]
    exact .finished h
  | cons c cs =>
    -- Markers are looked for by what is open, and never by tokens.
    have hquote : plan.keeping.quoteAt (s.withBuffer b) cur = plan.quoteAt s cur := rfl
    have hcomment : ∀ t : State, plan.keeping.commentAt (t.withBuffer b) cur =
        plan.commentAt t cur := fun _ => rfl
    rw [step_eq hrest, step_eq hrest, hquote, State.atQuote_withBuffer, hcomment,
      State.atComment_withBuffer]
    refine retains_proceed hdrop ?_ hrest htext _ _
    generalize plan.commentAt (s.atQuote (plan.quoteAt s cur)) cur = comment
    cases plan.quoteAt s cur <;> cases comment <;> exact h

/-! ## Whole runs -/

theorem retains_run (hdrop : plan.Droppable) (n : Nat) (h : s.buffer.Retains input s.cutsAt b)
    (htext : cur.text = input) :
    ∃ b', plan.keeping.run n (s.withBuffer b) cur = (plan.run n s cur).withBuffer b' ∧
      (plan.run n s cur).buffer.Retains input (plan.run n s cur).cutsAt b' := by
  induction n generalizing s b cur with
  | zero => exact ⟨b, rfl, h⟩
  | succ n ih =>
    have hretains := retains_step hdrop h htext
    rw [run, run]
    generalize ho : plan.step s cur = o at hretains
    generalize plan.keeping.step (s.withBuffer b) cur = o' at hretains
    cases hretains with
    | finished h' => exact ⟨_, rfl, h'⟩
    | advanced h' =>
      obtain ⟨width, rfl⟩ := step_advances ho
      exact ih h' ((cur.advance_text width).trans htext)

theorem exists_finalState_keeping (hdrop : plan.Droppable) (input : String) :
    ∃ (s : State) (b : TokenBuffer), plan.finalState input = s.ensureToken ∧
      plan.keeping.finalState input = (s.withBuffer b).ensureToken ∧
      s.buffer.Retains input s.cutsAt b := by
  have htext : (Cursor.ofText input).text = input := by simp [Cursor.ofText, Cursor.text]
  obtain ⟨b, hrun, hretains⟩ :=
    retains_run hdrop input.toList.length (.start input) (s := {}) htext
  have hsame : State.withBuffer {} {} = {} := rfl
  rw [hsame] at hrun
  exact ⟨_, b, rfl, congrArg State.ensureToken hrun, hretains⟩

end Plan

/-! ## Results -/

namespace TokenBuffer.Retains

theorem size' (h : Retains input noted b b') : b'.finished.size = noted.size := by
  obtain ⟨hsize, ⟨pieces, hpieces, hfinished⟩, -⟩ := h
  have hlength : pieces.length = noted.size := hpieces.length_eq.symm
  rw [← Array.length_toList, hfinished, List.length_zipWith, Array.length_toList, hsize, hlength,
    Nat.min_self]

/-- Each finished token of one side, with what its cut has passed, is that of the other side. -/
theorem exists_piece (h : Retains input noted b b') {i : Nat} {m : Nat × String}
    (hm : noted[i]? = some m) :
    ∃ token piece, Consumed input m piece ∧ b.finished[i]? = some token ∧
      b'.finished[i]? = some (token.addText piece) := by
  obtain ⟨hsize, ⟨pieces, hpieces, hfinished⟩, -⟩ := h
  obtain ⟨hi, rfl⟩ := Array.getElem?_eq_some_iff.mp hm
  have htoken : i < b.finished.size := hsize ▸ hi
  have hpiece : i < pieces.length := hpieces.length_eq ▸ hi
  refine ⟨b.finished[i], pieces[i], hpieces.get (by simpa using hi) hpiece,
    Array.getElem?_eq_getElem htoken, ?_⟩
  rw [← Array.getElem?_toList, hfinished, List.getElem?_zipWith, Array.getElem?_toList,
    Array.getElem?_eq_getElem htoken, List.getElem?_eq_getElem hpiece]

end TokenBuffer.Retains

/-- The result `r'` is `r`, but what each cut has passed stands at the end of the token before
it. -/
structure ScanResult.Retains (input : String) (r r' : ScanResult) : Prop where
  delims : r'.delims = r.delims
  options : r'.options = { r.options with preserveDelimiters := true }
  cuts : r'.cuts = r.cuts
  cutsAt : r'.cutsAt = r.cutsAt
  comments : r'.comments = r.comments
  maxDepth : r'.maxDepth = r.maxDepth
  nesting : r'.nesting = r.nesting
  stop : r'.stop = r.stop
  sizes : r.tokens.size = r.cutsAt.size + 1 ∧ r'.tokens.size = r.cutsAt.size + 1
  before : ∀ (i : Nat) (m : Nat × String), r.cutsAt[i]? = some m →
    ∃ (token : Token) (piece : String), Consumed input m piece ∧
      r.tokens[i]? = some token ∧ r'.tokens[i]? = some (token.addText piece)
  last : r'.tokens[r.cutsAt.size]? = r.tokens[r.cutsAt.size]?

/-- The results of two states whose tokens are related. -/
theorem State.retains_result (h : s.buffer.Retains input s.cutsAt b) (delims : List Delimiter)
    (options : Options) :
    (s.ensureToken.result delims options).Retains input
      ((s.withBuffer b).ensureToken.result delims
        { options with preserveDelimiters := true }) := by
  have htokens : (s.ensureToken.result delims options).tokens =
      s.buffer.finished.push (s.buffer.current.getD {}) := rfl
  have htokens' : ((s.withBuffer b).ensureToken.result delims
      { options with preserveDelimiters := true }).tokens =
      b.finished.push (b.current.getD {}) := rfl
  have hcutsAt : (s.ensureToken.result delims options).cutsAt = s.cutsAt := rfl
  refine ⟨rfl, rfl, rfl, rfl, rfl, rfl, rfl, rfl, ⟨?_, ?_⟩, fun i m hm => ?_, ?_⟩
  · rw [htokens, hcutsAt, Array.size_push, h.size]
  · rw [htokens', hcutsAt, Array.size_push, h.size']
  · obtain ⟨hi, -⟩ := Array.getElem?_eq_some_iff.mp hm
    obtain ⟨token, piece, hpiece, htoken, htoken'⟩ := h.exists_piece hm
    have hne : i ≠ s.buffer.finished.size := (h.size ▸ hi : i < s.buffer.finished.size).ne
    have hne' : i ≠ b.finished.size := (h.size' ▸ hi : i < b.finished.size).ne
    refine ⟨token, piece, hpiece, ?_, ?_⟩
    · rw [htokens, Array.getElem?_push, if_neg hne, htoken]
    · rw [htokens', Array.getElem?_push, if_neg hne', htoken']
  · rw [htokens, htokens', hcutsAt, Array.getElem?_push, Array.getElem?_push, if_pos h.size.symm,
      if_pos h.size'.symm, h.current]

/-- Whether delimiters are kept changes the texts of the tokens before cuts, and nothing else. -/
theorem scan_keeping (input : String) (options : Options) (delims : List Delimiter)
    (hnonempty : delims ≠ []) (hdelims : ∀ p, .predicate p ∉ delims)
    (hstops : ∀ p, .predicate p ∉ options.stops) :
    (∃ e, scan input { options with preserveDelimiters := false } delims = .error e ∧
      scan input { options with preserveDelimiters := true } delims = .error e) ∨
    ∃ r r', scan input { options with preserveDelimiters := false } delims = .ok r ∧
      scan input { options with preserveDelimiters := true } delims = .ok r' ∧
      r.Retains input r' := by
  have hkeeping := Plan.make_keeping options delims
  cases hmake : Plan.make { options with preserveDelimiters := false } delims with
  | error e =>
    rw [hmake] at hkeeping
    exact .inl ⟨e, scan_of_make_error hmake input, scan_of_make_error hkeeping input⟩
  | ok plan =>
    rw [hmake] at hkeeping
    obtain ⟨hoptions, hresolved, hresolvedStops⟩ := Plan.make_eq_ok_iff.mp hmake
    have hdrop : plan.Droppable := by
      refine ⟨by rw [hoptions], ?_, fun p hp => ?_, fun p hp => ?_⟩
      · exact mt (Plan.resolve_eq_nil_iff hresolved).mp hnonempty
      · exact hdelims p (Plan.mem_of_mem_resolve hresolved hp)
      · exact hstops p (Plan.mem_of_mem_resolve hresolvedStops hp)
    obtain ⟨s, b, hfinal, hfinal', hretains⟩ := Plan.exists_finalState_keeping hdrop input
    rw [scan_of_make hmake, scan_of_make hkeeping, hfinal, hfinal', State.verdict, State.verdict]
    have hnesting : (s.withBuffer b).ensureToken.nesting = s.ensureToken.nesting := rfl
    rw [hnesting]
    cases s.ensureToken.nesting with
    | nil => exact .inr ⟨_, _, rfl, rfl, State.retains_result hretains delims _⟩
    | cons k outer => exact .inl ⟨_, rfl, rfl⟩

def anyCase : Options := { caseInsensitive := true, stops := [.literal ";"] }

/-- The text that a cut passes is kept as it is written in the input. -/
theorem scan_keeping_any_case :
    [Delimiter.literal "and"] ≠ [] ∧ (∀ p, .predicate p ∉ [Delimiter.literal "and"]) ∧
    (∀ p, .predicate p ∉ anyCase.stops) ∧
    ∃ r r', scan "aANDb/*x*/and;c" { anyCase with preserveDelimiters := false } [.literal "and"] =
        .ok r ∧
      scan "aANDb/*x*/and;c" { anyCase with preserveDelimiters := true } [.literal "and"] = .ok r' ∧
      r.Retains "aANDb/*x*/and;c" r' ∧ r.texts = ["a", "b", ""] ∧
      r'.texts = ["aAND", "band", ""] := by
  have hdelims : ∀ p, .predicate p ∉ [Delimiter.literal "and"] := by simp
  have hstops : ∀ p, .predicate p ∉ anyCase.stops := by simp [anyCase]
  refine ⟨by simp, hdelims, hstops, _, _, rfl, rfl, ?_, rfl, rfl⟩
  rcases scan_keeping "aANDb/*x*/and;c" anyCase [.literal "and"] (by simp) hdelims hstops with
    ⟨e, herror, -⟩ | ⟨r, r', hr, hr', hretains⟩
  · cases herror
  · cases hr
    cases hr'
    exact hretains

end DelimiterScan
