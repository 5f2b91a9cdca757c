import DelimiterScan.Proofs.Document.Inside

/-!
# Scanning a document

The scan of a document follows its items. At the top level each item adds its part to the state,
as `Gathered` says of the whole, and together the parts are the interpretation of the document
(`scan_render`).
-/

namespace DelimiterScan

namespace Document

variable {separators : List Char} {inside : Option Bracket} {s : State} {cur : Cursor}
  {c : Char} {cs : List Char}

/-! ## Steps at the top level -/

theorem firstMatch?_delimiters (separators : List Char) (hrest : cur.rest = c :: cs)
    (buffer : TokenBuffer) :
    Delimiter.firstMatch? (delimiters separators) cur buffer false =
      if c ∈ separators then some c.toString else none := by
  have hmatch : ∀ d : Char, (Delimiter.literal d.toString).match? cur buffer false =
      if d = c then some c.toString else none := by
    intro d
    have hstands : Delimiter.literalStandsAt d.toString (c :: cs) false = true ↔ d = c := by
      rw [Delimiter.literalStandsAt_iff]
      simp [Char.toString, List.cons_prefix_cons]
    by_cases h : d = c
    · simp only [Delimiter.match?, hrest, hstands.mpr h, if_true]
      rw [if_pos h, h]
    · simp only [Delimiter.match?, hrest, hstands, h, if_false]
  induction separators with
  | nil => rfl
  | cons d separators ih =>
    have hcons : Delimiter.firstMatch? (delimiters (d :: separators)) cur buffer false =
        ((Delimiter.literal d.toString).match? cur buffer false).or
          (Delimiter.firstMatch? (delimiters separators) cur buffer false) := by
      simp only [Delimiter.firstMatch?, delimiters, List.map_cons, List.findSome?_cons]
      cases (Delimiter.literal d.toString).match? cur buffer false <;> rfl
    rw [hcons, ih, hmatch]
    by_cases h : d = c
    · simp [h]
    · simp [h, Ne.symm h]

/-- Outside of brackets nothing but a separator and the beginning of a region is more than text. -/
theorem step_flat (hne : separators ≠ []) (hidle : s.Idle) (hnesting : s.nesting = [])
    (hmark : c ∉ quoteMarks) (hslash : c ≠ '/') (hopener : ∀ b : Bracket, c ≠ b.opener)
    (before : String) (ahead : List Char) :
    (plan separators).step s ⟨before, c :: ahead⟩ =
      if c ∈ separators then
        .advanced ((plan separators).cutState s ⟨before, c :: ahead⟩ c.toString
          c.toString.utf8ByteSize) ⟨before ++ c.toString, ahead⟩
      else .advanced (s.ensureToken.addText c.toString) ⟨before ++ c.toString, ahead⟩ := by
  have hdelims : (plan separators).delims ≠ [] := by simpa [plan, delimiters] using hne
  have hstop : (plan separators).stop? s ⟨before, c :: ahead⟩ = none := by
    simp [Plan.stop?, plan, Delimiter.firstMatch?]
  have hblock : (plan separators).blockAt s ⟨before, c :: ahead⟩ = .none :=
    blockAt_none rfl hopener (by simp [hnesting]) (by simp [hnesting])
  have hrest : (⟨before, c :: ahead⟩ : Cursor).rest = c :: ahead := rfl
  have hmatch := firstMatch?_delimiters separators hrest s.ensureToken.buffer
  rw [Plan.step_looks rfl (looks hidle hmark hslash),
    Plan.inText_flat hstop hdelims hnesting hblock, ← Cursor.advance_char]
  by_cases hmem : c ∈ separators
  · rw [if_pos hmem] at hmatch ⊢
    rw [Plan.atDelimiter_of_match hmatch, Plan.matchWidth, if_neg (by simp)]
  · rw [if_neg hmem] at hmatch ⊢
    exact Plan.atDelimiter_of_no_match hmatch

end Document

def Token.append (t u : Token) : Token := ⟨t.text ++ u.text, t.comments ++ u.comments⟩

theorem Token.append_assoc (t u v : Token) : (t.append u).append v = t.append (u.append v) := by
  simp [append, String.append_assoc]

@[simp]
theorem Token.empty_append (t : Token) : Token.append {} t = t := by
  simp [append]

@[simp]
theorem Token.append_empty (t : Token) : t.append {} = t := by
  simp [append]

namespace Document

/-- What a document at the top level adds to the state of a scan. -/
structure Gathered (d : Document separators inside) (offset : Nat) (s s' : State) : Prop where
  nesting : s'.nesting = []
  maxDepth : s'.maxDepth = max s.maxDepth d.depth
  comments : s'.comments = s.comments ++ d.comments
  tokens : s'.buffer.ensure.tokens.toList = s.buffer.finished.toList ++
    (d.segments.map token).modifyHead (s.buffer.current.getD {}).append
  cuts : s'.cuts.toList = s.cuts.toList ++ (d.separatorsAt offset).map fun p => some p.2.toString
  cutsAt : s'.cutsAt.toList =
    s.cutsAt.toList ++ (d.separatorsAt offset).map fun p => (p.1, p.2.toString)
  stop : s'.stop = s.stop

/-- A state that differs from `s` by a piece of the current token, behind `depth` levels. -/
structure Adds (s t : State) (piece : Token) (depth : Nat) : Prop extends t.Idle where
  nesting : t.nesting = s.nesting
  maxDepth : t.maxDepth = max s.maxDepth depth
  comments : t.comments = s.comments ++ piece.comments
  finished : t.buffer.finished = s.buffer.finished
  current : t.buffer.current.getD {} = (s.buffer.current.getD {}).append piece
  cuts : t.cuts = s.cuts
  cutsAt : t.cutsAt = s.cutsAt
  stop : t.stop = s.stop

/-- An item before the rest of a document that is passed as `text`, and becomes a piece of the
first token. -/
structure Heads (d rest : Document separators inside) (text : List Char) (piece : Token)
    (depth : Nat) : Prop where
  tokens : d.segments.map token = (rest.segments.map token).modifyHead piece.append
  comments : d.comments = piece.comments ++ rest.comments
  depth : d.depth = max depth rest.depth
  separatorsAt : ∀ offset, d.separatorsAt offset = rest.separatorsAt (offset + Text.byteSize text)

theorem Gathered.of_adds {d rest : Document separators inside} {text : List Char} {piece : Token}
    {n offset : Nat} {t s' : State} (hhead : Heads d rest text piece n) (hadds : Adds s t piece n)
    (h : Gathered rest (offset + Text.byteSize text) t s') : Gathered d offset s s' where
  nesting := h.nesting
  maxDepth := by rw [h.maxDepth, hadds.maxDepth, hhead.depth, Nat.max_assoc]
  comments := by rw [h.comments, hadds.comments, hhead.comments, List.append_assoc]
  tokens := by
    rw [h.tokens, hadds.finished, hadds.current, hhead.tokens, List.modifyHead_modifyHead]
    congr 2
    funext u
    exact Token.append_assoc _ _ _
  cuts := by rw [h.cuts, hadds.cuts, hhead.separatorsAt]
  cutsAt := by rw [h.cutsAt, hadds.cutsAt, hhead.separatorsAt]
  stop := by rw [h.stop, hadds.stop]

/-! ### The items -/

theorem map_token_modifyHead {f : Document separators inside → Document separators inside}
    {piece : Token} (hf : ∀ d, (f d).token = piece.append d.token)
    (parts : List (Document separators inside)) :
    (parts.modifyHead f).map token = (parts.map token).modifyHead piece.append := by
  cases parts with
  | nil => rfl
  | cons d parts => simp [hf]

theorem heads_plain (hc : PlainChar separators inside c) (rest : Document separators inside) :
    Heads (plain c hc rest) rest [c] ⟨c.toString, []⟩ 0 where
  tokens := map_token_modifyHead (fun d => by
    simp [token, Token.append, visible, comments, String.ofList_cons]) _
  comments := by simp [comments]
  depth := by simp [depth]
  separatorsAt offset := by simp [separatorsAt]

theorem heads_quotation {mark : Char} {body : List Char} (hmark : mark ∈ quoteMarks)
    (hbody : mark ∉ body) (rest : Document separators inside) :
    Heads (quotation mark hmark body hbody rest) rest (mark :: (body ++ [mark]))
      ⟨String.ofList (mark :: (body ++ [mark])), []⟩ 0 where
  tokens := map_token_modifyHead (fun d => by
    simp [token, Token.append, visible, comments, String.ofList_append, String.ofList_cons,
      String.append_assoc, -String.append_singleton]) _
  comments := by simp [comments]
  depth := by simp [depth]
  separatorsAt offset := rfl

theorem heads_comment {k : Block} {body : List Char} (hk : k ∈ Block.defaultComments)
    (hbody : ¬ k.finish.toList <:+: body) (rest : Document separators inside) :
    Heads (comment k hk body hbody rest) rest (k.start.toList ++ (body ++ k.finish.toList))
      ⟨"", [String.ofList body]⟩ 0 where
  tokens := map_token_modifyHead (fun d => by simp [token, Token.append, visible, comments]) _
  comments := by simp [comments]
  depth := by simp [depth]
  separatorsAt offset := rfl

theorem heads_group (b : Bracket) (inner : Document separators (some b))
    (rest : Document separators inside) :
    Heads (group b inner rest) rest (b.opener :: (inner.render ++ [b.closer]))
      ⟨String.ofList (b.opener :: (inner.render ++ [b.closer])), []⟩ (inner.depth + 1) where
  tokens := map_token_modifyHead (fun d => by
    simp [token, Token.append, visible, comments, String.ofList_append, String.ofList_cons,
      String.append_assoc, -String.append_singleton]) _
  comments := by simp [comments]
  depth := rfl
  separatorsAt offset := rfl

theorem adds_text {n : Nat} (hidle : s.Idle) (text : String) :
    Adds s ((deepen s n).addText text) ⟨text, []⟩ n where
  openQuote := hidle.openQuote
  openComment := hidle.openComment
  nesting := rfl
  maxDepth := rfl
  comments := by simp [deepen, State.addText]
  finished := rfl
  current := by simp [deepen, State.addText, Token.addText, Token.append]
  cuts := rfl
  cutsAt := rfl
  stop := rfl

theorem adds_ensured (hidle : s.Idle) (text : String) :
    Adds s (s.ensureToken.addText text) ⟨text, []⟩ 0 where
  openQuote := hidle.openQuote
  openComment := hidle.openComment
  nesting := rfl
  maxDepth := (Nat.max_zero _).symm
  comments := by simp [State.ensureToken, State.addText]
  finished := rfl
  current := by simp [State.ensureToken, TokenBuffer.ensure, State.addText, Token.addText,
    Token.append]
  cuts := rfl
  cutsAt := rfl
  stop := rfl

theorem adds_comment (hidle : s.Idle) (body : String) :
    Adds s (s.withComment body) ⟨"", [body]⟩ 0 where
  openQuote := hidle.openQuote
  openComment := hidle.openComment
  nesting := rfl
  maxDepth := (Nat.max_zero _).symm
  comments := rfl
  finished := rfl
  current := by simp [State.withComment, Token.append]
  cuts := rfl
  cutsAt := rfl
  stop := rfl

theorem not_preserve (separators : List Char) :
    ¬ (plan separators).options.preserveDelimiters = true := nofun

/-- The state behind a separator has one more finished token and an empty current one. -/
theorem gathered_separator {d : Char} (hd : d ∈ separators) {rest : Document separators none}
    {before : String} {ahead : List Char} {width : Nat} {s' : State}
    (h : Gathered rest (before.utf8ByteSize + d.utf8Size)
      ((plan separators).cutState s ⟨before, ahead⟩ d.toString width) s') :
    Gathered (separator d hd rest) before.utf8ByteSize s s' := by
  have hcut : ∃ t, (plan separators).cutState s ⟨before, ahead⟩ d.toString width = t ∧
      t.maxDepth = s.maxDepth ∧ t.comments = s.comments ∧ t.stop = s.stop ∧
      t.buffer.finished = s.buffer.finished.push (s.buffer.current.getD {}) ∧
      t.buffer.current.getD {} = {} ∧ t.cuts = s.cuts.push (some d.toString) ∧
      t.cutsAt = s.cutsAt.push (before.utf8ByteSize, d.toString) := by
    refine ⟨_, rfl, ?_⟩
    rw [Plan.cutState, if_neg (not_preserve separators)]
    split <;> refine ⟨rfl, rfl, rfl, rfl, rfl, rfl, rfl⟩
  obtain ⟨t, rfl, hmax, hcomments, hstop, hfinished, hcurrent, hcuts, hcutsAt⟩ := hcut
  refine ⟨h.nesting, ?_, ?_, ?_, ?_, ?_, h.stop.trans hstop⟩
  · rw [h.maxDepth, hmax]
    rfl
  · rw [h.comments, hcomments]
    rfl
  · have htoken : (nil : Document separators none).token = {} := rfl
    have hrest : (rest.segments.map token).modifyHead (Token.append {}) =
        rest.segments.map token := by
      cases rest.segments.map token with
      | nil => rfl
      | cons t ts => rw [List.modifyHead_cons, Token.empty_append]
    rw [h.tokens, hfinished, hcurrent, hrest]
    simp [segments, htoken]
  · rw [h.cuts, hcuts]
    simp [separatorsAt]
  · rw [h.cutsAt, hcutsAt]
    simp [separatorsAt]

theorem separator_plain {d : Char} (h : d ∉ reserved) :
    d ∉ quoteMarks ∧ d ≠ '/' ∧ ∀ b : Bracket, d ≠ b.opener := by
  refine ⟨fun hmark => h ?_, ?_, ?_⟩
  · simp only [quoteMarks, List.mem_cons, List.not_mem_nil, or_false] at hmark
    rcases hmark with rfl | rfl | rfl <;> decide
  · rintro rfl
    exact h (by decide)
  · rintro b rfl
    exact h (by cases b <;> decide)

theorem idle_cutState (separators : List Char) (hidle : s.Idle) (hnesting : s.nesting = [])
    (cur : Cursor) (d : Char) :
    ((plan separators).cutState s cur d.toString d.toString.utf8ByteSize).Idle ∧
      ((plan separators).cutState s cur d.toString d.toString.utf8ByteSize).nesting = [] := by
  rw [Plan.cutState, if_neg (not_preserve separators)]
  split <;> exact ⟨⟨hidle.openQuote, hidle.openComment⟩, hnesting⟩

/-- Scanning the document from the state `s`, behind `before`, gathers it. -/
def Scans (d : Document separators inside) (s : State) (before : String) : Prop :=
  ∃ s', (plan separators).Leads (s, ⟨before, d.render⟩)
      (s', ⟨before ++ String.ofList d.render, []⟩) ∧ s'.Idle ∧
    Gathered d before.utf8ByteSize s s'

theorem Scans.cons {d rest : Document separators inside} {text : List Char} {piece : Token}
    {n : Nat} {before : String} {t : State} (hrender : d.render = text ++ rest.render)
    (hhead : Heads d rest text piece n) (hadds : Adds s t piece n)
    (hleads : (plan separators).Leads (s, ⟨before, text ++ rest.render⟩)
      (t, ⟨before ++ String.ofList text, rest.render⟩))
    (h : Scans rest t (before ++ String.ofList text)) : Scans d s before := by
  obtain ⟨s', hmore, hidle, hgathered⟩ := h
  rw [String.append_assoc, ← String.ofList_append] at hmore
  rw [String.utf8ByteSize_append, Text.utf8ByteSize_ofList] at hgathered
  refine ⟨s', ?_, hidle, .of_adds hhead hadds hgathered⟩
  rw [hrender]
  exact hleads.trans hmore

theorem gathered_nil (hnesting : s.nesting = []) (offset : Nat) :
    Gathered (nil : Document separators inside) offset s s where
  nesting := hnesting
  maxDepth := (Nat.max_zero _).symm
  comments := (List.append_nil _).symm
  tokens := by
    have htoken : (nil : Document separators inside).token = {} := rfl
    simp [TokenBuffer.ensure, segments, htoken]
  cuts := by simp [separatorsAt]
  cutsAt := by simp [separatorsAt]
  stop := rfl

theorem scans (hne : separators ≠ []) (hreserved : ∀ d ∈ separators, d ∉ reserved)
    (d : Document separators inside) (h : inside = none) (hidle : s.Idle)
    (hnesting : s.nesting = []) (before : String) : Scans d s before := by
  induction d generalizing s before with
  | nil =>
    refine ⟨s, ?_, hidle, gathered_nil hnesting _⟩
    simpa [render] using Relation.ReflTransGen.refl
  | plain c hc rest ih =>
    subst h
    have hstep := step_flat hne hidle hnesting hc.not_mark hc.not_slash hc.not_opener before
      rest.render
    rw [if_neg (hc.not_separator rfl)] at hstep
    have hadds := adds_ensured hidle c.toString
    exact .cons rfl (heads_plain hc rest) hadds
      (.single hstep) (ih rfl hadds.toIdle (hadds.nesting.trans hnesting) _)
  | separator d hd rest ih =>
    obtain ⟨hmark, hslash, hopener⟩ := separator_plain (hreserved d hd)
    -- A separator begins a token of its own instead of adding to the first one of the rest.
    have hstep := step_flat hne hidle hnesting hmark hslash hopener before rest.render
    rw [if_pos hd] at hstep
    obtain ⟨hidle', hnesting'⟩ :=
      idle_cutState separators hidle hnesting ⟨before, d :: rest.render⟩ d
    obtain ⟨s', hmore, hidle'', hgathered⟩ :=
      ih rfl hidle' hnesting' (before ++ d.toString)
    rw [String.utf8ByteSize_append, Char.toString, String.utf8ByteSize_singleton] at hgathered
    rw [String.append_assoc] at hmore
    refine ⟨s', ?_, hidle'', gathered_separator hd hgathered⟩
    simpa [render, String.ofList_cons, -String.append_singleton] using Plan.Leads.cons hstep hmore
  | quotation mark hmark body hbody rest ih =>
    have hadds := adds_text (n := 0) hidle (String.ofList (mark :: (body ++ [mark])))
    refine .cons (by simp [render]) (heads_quotation hmark hbody rest) hadds ?_
      (ih h hadds.toIdle (hadds.nesting.trans hnesting) _)
    rw [deepen_of_le (Nat.zero_le _)]
    simpa using leads_defaultQuotation hidle hmark hbody before rest.render
  | comment k hk body hbody rest ih =>
    have hadds := adds_comment hidle (String.ofList body)
    refine .cons (by simp [render]) (heads_comment hk hbody rest) hadds ?_
      (ih h hadds.toIdle (hadds.nesting.trans hnesting) _)
    simpa using leads_defaultComment hidle hnesting hk hbody before rest.render
  | group b inner rest _ ih =>
    have hadds := adds_text (n := inner.depth + 1) hidle
      (String.ofList (b.opener :: (inner.render ++ [b.closer])))
    refine .cons (by simp [render]) (heads_group b inner rest) hadds ?_
      (ih h hadds.toIdle (hadds.nesting.trans hnesting) _)
    have hleads := leads_group hne (absorbs_render hne inner rfl) hidle before rest.render
    rw [hnesting, List.length_nil, Nat.zero_add] at hleads
    simpa using hleads

/-- A state that has gathered a document from the beginning holds its interpretation. -/
theorem Gathered.result {doc : Document separators none} (h : Gathered doc 0 {} s) :
    s.ensureToken.result (delimiters separators) {} = doc.interpretation := by
  have hnesting : s.ensureToken.nesting = [] := h.nesting
  have hdepth : s.ensureToken.maxDepth = doc.depth := h.maxDepth.trans (Nat.zero_max _)
  have hcomments : s.ensureToken.comments = doc.comments := h.comments
  have htokens : s.ensureToken.buffer.tokens = (doc.segments.map token).toArray := by
    apply Array.toList_inj.mp
    rw [show s.ensureToken.buffer.tokens.toList = _ from h.tokens]
    cases doc.segments.map token <;> simp
  have hcuts : s.ensureToken.cuts = doc.interpretation.cuts := by
    show s.cuts = _
    exact Array.toList_inj.mp (by simpa [interpretation] using h.cuts)
  have hcutsAt : s.ensureToken.cutsAt = doc.interpretation.cutsAt := by
    show s.cutsAt = _
    exact Array.toList_inj.mp (by simpa [interpretation] using h.cutsAt)
  have hstop : s.ensureToken.stop = none := h.stop
  rw [State.result, hnesting, hdepth, hcomments, htokens, hcuts, hcutsAt, hstop, interpretation]

/-- Scanning what was written gives what was meant. -/
theorem scan_render (hne : separators ≠ []) (hreserved : ∀ d ∈ separators, d ∉ reserved)
    (doc : Document separators none) :
    scan (String.ofList doc.render) {} (delimiters separators) = .ok doc.interpretation := by
  obtain ⟨s, hleads, hidle, hgathered⟩ := scans hne hreserved doc rfl (s := {}) ⟨rfl, rfl⟩ rfl ""
  have hstart : (⟨"", doc.render⟩ : Cursor) = .ofText (String.ofList doc.render) := by
    rw [Cursor.ofText, String.toList_ofList]
  rw [hstart] at hleads
  have hmake : Plan.make {} (delimiters separators) = .ok (plan separators) := rfl
  have hfinal : (plan separators).finalState (String.ofList doc.render) = s.ensureToken :=
    Plan.finalState_eq hleads (Plan.step_of_rest_nil rfl)
  have hnesting : s.ensureToken.nesting = [] := hgathered.nesting
  rw [scan_of_make hmake, hfinal, State.verdict_of_nil hnesting, hgathered.result]

def call : Document [','] none :=
  .plain 'f' (by decide) <|
  .group .round
    (.plain 'a' (by decide) <| .plain ',' (by decide) <|
      .quotation '"' (by decide) [')'] (by decide) <|
      .comment ⟨"/*", "*/"⟩ (by decide) [','] (by decide) .nil) <|
  .separator ',' (by decide) <|
  .plain 'b' (by decide) <|
  .comment ⟨"//", "\n"⟩ (by decide) ['k'] (by decide) .nil

theorem scan_call :
    scan "f(a,\")\"/*,*/),b//k\n" {} [.literal ","] = .ok {
      delims := [.literal ","], options := {}, nesting := [], maxDepth := 1, comments := ["k"]
      tokens := #[⟨"f(a,\")\"/*,*/)", []⟩, ⟨"b", ["k"]⟩]
      cuts := #[some ","], cutsAt := #[(13, ",")], stop := none } :=
  scan_render (by decide) (by simp [reserved]) call

end Document

end DelimiterScan
