import DelimiterScan.Proofs.Run
import Mathlib.Logic.Basic

/-!
# What a step can do

`Plan.Reaction` lists what a step comes to, one constructor for each way through the step, each
with the conditions under which it is taken. `Plan.reaction_step` says that the list is complete,
and the lemmas `step_…` that each way is taken wherever its conditions hold. Everything that is
proved of all steps is proved by cases on `Plan.Reaction`.
-/

namespace DelimiterScan

namespace Boundary

theorem marked_iff {rest : List Char} {marker : String} :
    marked rest marker = true ↔ marker ≠ "" ∧ marker.toList <+: rest := by
  simp [marked, Text.startsWith_iff]

/-- What a block does is done by a marker at the cursor. -/
theorem exists_marker_of_ofBlock? {nesting : List Block} {rest : List Char} {k : Block}
    {b : Boundary Block} (h : ofBlock? nesting rest k = some b) :
    ∃ marker, b.marker? = some marker ∧ marked rest marker := by
  unfold ofBlock? at h
  split at h
  · next hstart =>
    cases h
    exact ⟨k.start, rfl, hstart⟩
  · split at h
    · cases h
    · next innermost outer =>
      split at h
      · next hfinish =>
        cases h
        exact ⟨innermost.finish, rfl, hfinish.1 ▸ hfinish.2⟩
      · cases h

/-! ### The marker of a boundary stands at the cursor -/

variable {rest : List Char} {marker : String}

theorem marked_ofQuotes {quotes : List String} {openQuote : Option String}
    (h : (ofQuotes quotes openQuote rest).quoteMark? = some marker) :
    marked rest marker = true := by
  unfold ofQuotes at h
  cases openQuote with
  | some current =>
    by_cases hmark : marked rest current = true
    · simp only [if_pos hmark] at h
      cases h
      exact hmark
    · simp only [if_neg hmark] at h
      cases h
  | none =>
    cases hfind : quotes.find? (marked rest) with
    | none => simp only [hfind] at h; cases h
    | some current =>
      simp only [hfind] at h
      cases h
      exact List.find?_some hfind

theorem marked_ofComments {comments : List Block} {openComment : Option Block}
    (h : (ofComments comments openComment rest).marker? = some marker) :
    marked rest marker = true := by
  unfold ofComments at h
  cases openComment with
  | some k =>
    by_cases hmark : marked rest k.finish = true
    · simp only [if_pos hmark] at h
      cases h
      exact hmark
    · simp only [if_neg hmark] at h
      cases h
  | none =>
    cases hfind : comments.find? (marked rest ·.start) with
    | none => simp only [hfind] at h; cases h
    | some k =>
      simp only [hfind] at h
      cases h
      simpa using List.find?_some hfind

/-- Where something happens to blocks, one of the table does it. -/
theorem exists_ofBlock?_of_ofBlocks {blocks nesting : List Block}
    (h : ofBlocks blocks nesting rest ≠ .none) :
    ∃ k ∈ blocks, ofBlock? nesting rest k = some (ofBlocks blocks nesting rest) := by
  unfold ofBlocks at h ⊢
  cases hfind : blocks.findSome? (ofBlock? nesting rest) with
  | none =>
    rw [hfind] at h
    exact absurd rfl h
  | some b => exact List.exists_of_findSome?_eq_some hfind

theorem marked_ofBlocks {blocks nesting : List Block}
    (h : (ofBlocks blocks nesting rest).marker? = some marker) : marked rest marker = true := by
  have hne : ofBlocks blocks nesting rest ≠ .none := by
    intro hnone
    rw [hnone] at h
    cases h
  obtain ⟨k, -, hk⟩ := exists_ofBlock?_of_ofBlocks hne
  obtain ⟨marker', hmarker', hmark⟩ := exists_marker_of_ofBlock? hk
  rw [h, Option.some.injEq] at hmarker'
  exact hmarker' ▸ hmark

theorem marked_toString {c : Char} {cs : List Char} (hrest : rest = c :: cs) :
    marked rest c.toString = true := by
  rw [marked_iff, hrest]
  simp [Char.toString]

/-- The marker of a boundary, or the next character where there is none, stands at the cursor. -/
theorem marked_getD {c : Char} {cs : List Char} {marker? : Option String} (hrest : rest = c :: cs)
    (h : ∀ marker, marker? = some marker → marked rest marker = true) :
    marked rest (marker?.getD c.toString) = true := by
  cases marker? with
  | none => exact marked_toString hrest
  | some marker => exact h marker rfl

end Boundary

namespace Delimiter

/-- Where case counts, a literal stands where the text ahead begins with it. -/
theorem literalStandsAt_iff {text : String} {rest : List Char} :
    literalStandsAt text rest false = true ↔ text.toList <+: rest := by
  unfold literalStandsAt
  cases htake : Text.takeBytes? text.utf8ByteSize rest with
  | none =>
    simp only [Bool.false_eq_true, false_iff]
    intro hbegins
    have := Text.takeBytes?_eq_some_iff.mpr ⟨hbegins, Text.byteSize_toList text⟩
    rw [htake] at this
    cases this
  | some candidate =>
    obtain ⟨hbegins, hsize⟩ := Text.takeBytes?_eq_some_iff.mp htake
    simp only [Bool.false_eq_true, if_false, decide_eq_true_eq]
    constructor
    · rintro rfl
      exact hbegins
    · intro htext
      have := Text.takeBytes?_eq_some_iff.mpr ⟨htext, Text.byteSize_toList text⟩
      rw [htake] at this
      exact Option.some.inj this

/-- Among literals, the match is one that stands at the cursor. -/
theorem literal_of_firstMatch? {ds : List Delimiter} {cur : Cursor} {buffer : TokenBuffer}
    {caseInsensitive : Bool} {matched : String} (hliterals : ∀ d ∈ ds, ∃ text, d = .literal text)
    (h : firstMatch? ds cur buffer caseInsensitive = some matched) :
    .literal matched ∈ ds ∧ literalStandsAt matched cur.rest caseInsensitive = true := by
  obtain ⟨d, hd, hfound⟩ := List.exists_of_findSome?_eq_some h
  obtain ⟨text, rfl⟩ := hliterals d hd
  rw [match?, Option.ite_none_right_eq_some, Option.some.injEq] at hfound
  obtain ⟨hstands, rfl⟩ := hfound
  exact ⟨hd, hstands⟩

end Delimiter

/-- Neither a quotation nor a comment is open. -/
structure State.Idle (s : State) : Prop where
  openQuote : s.openQuote = none
  openComment : s.openComment = none

@[simp] theorem State.buffer_atBlock (s : State) (b : Boundary Block) :
    (s.atBlock b).buffer = s.buffer := by
  cases b <;> rfl

namespace Plan

variable {plan : Plan} {s : State} {cur : Cursor} {c : Char} {cs : List Char} {k : Block}
  {mark : String}

def NoQuote (plan : Plan) (rest : List Char) : Prop :=
  plan.options.quotes.find? (Boundary.marked rest) = none

def NoComment (plan : Plan) (rest : List Char) : Prop :=
  plan.options.comments.find? (Boundary.marked rest ·.start) = none

/-- The scan looks for blocks, stops and delimiters: nothing is open, nothing begins, and there
are cuts left. -/
structure Looks (plan : Plan) (s : State) (rest : List Char) : Prop extends s.Idle where
  noQuote : plan.NoQuote rest
  noComment : plan.NoComment rest
  limit : plan.options.limit ≠ some s.cuts.size

def blockAt (plan : Plan) (s : State) (cur : Cursor) : Boundary Block :=
  Boundary.ofBlocks plan.options.blocks s.nesting cur.rest

/-! ### The marker of what begins or ends stands at the cursor -/

theorem marked_quoteAt (plan : Plan) (s : State) (cur : Cursor) (mark : String)
    (h : (plan.quoteAt s cur).quoteMark? = some mark) : Boundary.marked cur.rest mark = true := by
  unfold quoteAt at h
  split at h
  · exact Boundary.marked_ofQuotes h
  · cases h

theorem marked_commentAt (plan : Plan) (s : State) (cur : Cursor) (mark : String)
    (h : (plan.commentAt s cur).marker? = some mark) : Boundary.marked cur.rest mark = true := by
  unfold commentAt at h
  split at h
  · exact Boundary.marked_ofComments h
  · cases h

/-- The bytes that a match passes; an empty one passes a character. -/
def matchWidth (matched c : String) : Nat :=
  if matched = "" then c.utf8ByteSize else matched.utf8ByteSize

def cutState (plan : Plan) (s : State) (cur : Cursor) (matched : String) (width : Nat) : State :=
  let s := s.ensureToken.noteMatch cur.offset matched
  if plan.options.preserveDelimiters then (s.addText (cur.passed width)).cut (some matched)
  else if (cur.advance width).rest.isEmpty then (s.cut (some matched)).ensureToken
  else s.cut (some matched)

/-- What a step without delimiters comes to: the text goes to the token, and there may be a cut
before it or behind it. -/
inductive EdgeReaction (s : State) (cur : Cursor) (c : String) : Boundary Block → Outcome → Prop
  | plain {b : Boundary Block} (hopens : ∀ k, b = .opens k → s.depth ≠ 2)
      (hcloses : ∀ k, b = .closes k → s.depth ≠ 0) :
      EdgeReaction s cur c b (.plain s cur (b.marker?.getD c))
  | cutBefore {k : Block} (hdepth : s.depth = 2) :
      EdgeReaction s cur c (.opens k) (.plain (s.cut none) cur k.start)
  | cutBehind {k : Block} (hdepth : s.depth = 0) :
      EdgeReaction s cur c (.closes k)
        (.advanced ((s.addText k.finish).cut none) (cur.advance k.finish.utf8ByteSize))

theorem reaction_atBlockEdge (s : State) (cur : Cursor) (b : Boundary Block) (c : String) :
    EdgeReaction s cur c b (atBlockEdge s cur b c) := by
  cases b with
  | none => exact .plain nofun nofun
  | opens k =>
    unfold atBlockEdge
    dsimp only
    split
    · next hdepth => exact .cutBefore hdepth
    · next hdepth => exact .plain (fun _ _ => hdepth) nofun
  | closes k =>
    unfold atBlockEdge
    dsimp only
    split
    · next hdepth => exact .cutBehind hdepth
    · next hdepth => exact .plain nofun fun _ _ => hdepth

/-- What a step comes to at a text that goes on with the character `c`. -/
inductive Reaction (plan : Plan) (s : State) (cur : Cursor) (c : Char) : Outcome → Prop
  | commentBegins {k : Block} (hquote : ∀ mark ∈ s.openQuote, Boundary.marked cur.rest mark)
      (hcomment : s.openComment = none) (hk : k ∈ plan.options.comments)
      (hmark : Boundary.marked cur.rest k.start) :
      Reaction plan s cur c (inComment { s with openQuote := none, openComment := some k } cur
        (.opens k) c.toString)
  | commentGoesOn {k : Block} (hcomment : s.openComment = some k)
      (hmark : s.openQuote = none → ¬ Boundary.marked cur.rest k.finish) :
      Reaction plan s cur c (inComment s cur .none c.toString)
  | commentEnds {k : Block} (hquote : s.openQuote = none) (hcomment : s.openComment = some k)
      (hmark : Boundary.marked cur.rest k.finish) :
      Reaction plan s cur c (inComment { s with openComment := none } cur (.closes k) c.toString)
  | quoteBegins {mark : String} (hidle : s.Idle) (hmem : mark ∈ plan.options.quotes)
      (hmark : Boundary.marked cur.rest mark) :
      Reaction plan s cur c (.plain { s with openQuote := some mark } cur mark)
  | quoteGoesOn {mark : String} (hquote : s.openQuote = some mark)
      (hcomment : s.openComment = none) (hmark : ¬ Boundary.marked cur.rest mark) :
      Reaction plan s cur c (.plain s cur c.toString)
  | quoteEnds {mark : String} (hquote : s.openQuote = some mark)
      (hcomment : s.openComment = none) (hmark : Boundary.marked cur.rest mark)
      (hnone : plan.NoComment cur.rest) :
      Reaction plan s cur c (.plain { s with openQuote := none } cur mark)
  | limited (hidle : s.Idle) (hnoQuote : plan.NoQuote cur.rest)
      (hnoComment : plan.NoComment cur.rest) (hlimit : plan.options.limit = some s.cuts.size) :
      Reaction plan s cur c (.plain s cur c.toString)
  | stopped {matched : String} (hlooks : plan.Looks s cur.rest)
      (hnesting : (s.atBlock (plan.blockAt s cur)).nesting = [])
      (hmatch : Delimiter.firstMatch? plan.stops cur s.buffer plan.options.caseInsensitive =
        some matched) :
      Reaction plan s cur c (.finished { s.atBlock (plan.blockAt s cur) with
        stop := some ⟨matched, cur.offset, String.ofList cur.rest⟩ })
  | edge (hlooks : plan.Looks s cur.rest)
      (hstop : plan.stop? (s.atBlock (plan.blockAt s cur)) cur = none)
      (hdelims : plan.delims = []) :
      Reaction plan s cur c
        (atBlockEdge (s.atBlock (plan.blockAt s cur)) cur (plan.blockAt s cur) c.toString)
  | matched {matched : String} (hlooks : plan.Looks s cur.rest) (hstop : plan.stop? s cur = none)
      (hdelims : plan.delims ≠ []) (hnesting : s.nesting = [])
      (hblock : plan.blockAt s cur = .none)
      (hmatch : Delimiter.firstMatch? plan.delims cur s.ensureToken.buffer
        plan.options.caseInsensitive = some matched) :
      Reaction plan s cur c
        (.advanced (plan.cutState s cur matched (matchWidth matched c.toString))
          (cur.advance (matchWidth matched c.toString)))
  | unmatched (hlooks : plan.Looks s cur.rest) (hstop : plan.stop? s cur = none)
      (hdelims : plan.delims ≠ []) (hnesting : s.nesting = [])
      (hblock : plan.blockAt s cur = .none)
      (hmatch : Delimiter.firstMatch? plan.delims cur s.ensureToken.buffer
        plan.options.caseInsensitive = none) :
      Reaction plan s cur c (.plain s.ensureToken cur c.toString)
  | nested (hlooks : plan.Looks s cur.rest)
      (hstop : plan.stop? (s.atBlock (plan.blockAt s cur)) cur = none) (hdelims : plan.delims ≠ [])
      (hnesting : (s.atBlock (plan.blockAt s cur)).nesting ≠ [] ∨ (plan.blockAt s cur).isClosing) :
      Reaction plan s cur c (.plain (s.atBlock (plan.blockAt s cur)) cur
        ((plan.blockAt s cur).marker?.getD c.toString))

/-! ## Each way through the step -/

theorem step_eq (hrest : cur.rest = c :: cs) :
    plan.step s cur =
      plan.proceed ((s.atQuote (plan.quoteAt s cur)).atComment
        (plan.commentAt (s.atQuote (plan.quoteAt s cur)) cur)) cur (plan.quoteAt s cur)
        (plan.commentAt (s.atQuote (plan.quoteAt s cur)) cur) c.toString := by
  simp only [step, hrest]

theorem step_in_comment (hrest : cur.rest = c :: cs) (hcomment : s.openComment = some k)
    (hmark : s.openQuote = none → ¬ Boundary.marked cur.rest k.finish) :
    plan.step s cur = inComment s cur .none c.toString := by
  have hquoteAt : plan.quoteAt s cur = .none := by simp [quoteAt, hcomment]
  have hcommentAt : plan.commentAt s cur = .none := by
    unfold commentAt
    cases hq : s.openQuote with
    | some mark => simp
    | none => simp [Boundary.ofComments, hcomment, hmark hq]
  rw [step_eq hrest, hquoteAt]
  simp only [State.atQuote]
  rw [hcommentAt]
  simp [proceed, State.atComment, hcomment]

theorem step_comment_end (hrest : cur.rest = c :: cs) (hquote : s.openQuote = none)
    (hcomment : s.openComment = some k) (hmark : Boundary.marked cur.rest k.finish) :
    plan.step s cur =
      inComment { s with openComment := none } cur (.closes k) c.toString := by
  have hquoteAt : plan.quoteAt s cur = .none := by simp [quoteAt, hcomment]
  have hcommentAt : plan.commentAt s cur = .closes k := by
    simp [commentAt, hquote, Boundary.ofComments, hcomment, hmark]
  rw [step_eq hrest, hquoteAt]
  simp only [State.atQuote]
  rw [hcommentAt]
  simp [proceed, State.atComment, Boundary.isClosing]

/-- A comment also begins where a quotation ends. -/
theorem step_comment_begin (hrest : cur.rest = c :: cs) (hcomment : s.openComment = none)
    (hquote : ∀ mark ∈ s.openQuote, Boundary.marked cur.rest mark)
    (hnoQuote : s.openQuote = none → plan.NoQuote cur.rest)
    (hk : plan.options.comments.find? (Boundary.marked cur.rest ·.start) = some k) :
    plan.step s cur = inComment { s with openQuote := none, openComment := some k } cur
      (.opens k) c.toString := by
  have hquoteAt : s.atQuote (plan.quoteAt s cur) = { s with openQuote := none } := by
    unfold quoteAt
    cases hq : s.openQuote with
    | some mark => simp [hcomment, Boundary.ofQuotes, hquote mark hq, State.atQuote]
    | none =>
      have hs : { s with openQuote := none } = s := by rw [← hq]
      have hfind := hnoQuote hq
      rw [NoQuote] at hfind
      rw [hs]
      simp [hcomment, Boundary.ofQuotes, hfind, State.atQuote]
  have hcommentAt : plan.commentAt { s with openQuote := none } cur = .opens k := by
    simp [commentAt, hcomment, Boundary.ofComments, hk]
  rw [step_eq hrest, hquoteAt, hcommentAt]
  simp [proceed, State.atComment]

theorem step_quote_begin (hrest : cur.rest = c :: cs) (hidle : s.Idle)
    (hmark : plan.options.quotes.find? (Boundary.marked cur.rest) = some mark) :
    plan.step s cur = .plain { s with openQuote := some mark } cur mark := by
  have hquoteAt : plan.quoteAt s cur = .opens mark := by
    simp [quoteAt, hidle.openComment, hidle.openQuote, Boundary.ofQuotes, hmark]
  have hcommentAt : plan.commentAt { s with openQuote := some mark } cur = .none := by
    simp [commentAt]
  rw [step_eq hrest, hquoteAt]
  simp only [State.atQuote]
  rw [hcommentAt]
  simp [proceed, State.atComment, hidle.openComment, Boundary.isClosing, Boundary.quoteMark?]

theorem step_in_quote (hrest : cur.rest = c :: cs) (hquote : s.openQuote = some mark)
    (hcomment : s.openComment = none) (hmark : ¬ Boundary.marked cur.rest mark) :
    plan.step s cur = .plain s cur c.toString := by
  have hquoteAt : plan.quoteAt s cur = .none := by
    simp [quoteAt, hcomment, hquote, Boundary.ofQuotes, hmark]
  have hcommentAt : plan.commentAt s cur = .none := by simp [commentAt, hquote]
  rw [step_eq hrest, hquoteAt]
  simp only [State.atQuote]
  rw [hcommentAt]
  simp [proceed, State.atComment, hcomment, hquote, Boundary.isClosing, Boundary.quoteMark?]

theorem step_quote_end (hrest : cur.rest = c :: cs) (hquote : s.openQuote = some mark)
    (hcomment : s.openComment = none) (hmark : Boundary.marked cur.rest mark)
    (hnone : plan.NoComment cur.rest) :
    plan.step s cur = .plain { s with openQuote := none } cur mark := by
  have hquoteAt : plan.quoteAt s cur = .closes mark := by
    simp [quoteAt, hcomment, hquote, Boundary.ofQuotes, hmark]
  have hcommentAt : plan.commentAt { s with openQuote := none } cur = .none := by
    rw [NoComment] at hnone
    simp [commentAt, hcomment, Boundary.ofComments, hnone]
  rw [step_eq hrest, hquoteAt]
  simp only [State.atQuote]
  rw [hcommentAt]
  simp [proceed, State.atComment, hcomment, Boundary.isClosing, Boundary.quoteMark?]

/-- Where nothing is open and nothing begins, the limit decides. -/
theorem step_idle (hrest : cur.rest = c :: cs) (hidle : s.Idle) (hnoQuote : plan.NoQuote cur.rest)
    (hnoComment : plan.NoComment cur.rest) :
    plan.step s cur =
      if plan.options.limit = some s.cuts.size then .plain s cur c.toString
      else plan.inText s cur c.toString := by
  rw [NoQuote] at hnoQuote
  rw [NoComment] at hnoComment
  have hquoteAt : plan.quoteAt s cur = .none := by
    simp [quoteAt, hidle.openComment, hidle.openQuote, Boundary.ofQuotes, hnoQuote]
  have hcommentAt : plan.commentAt s cur = .none := by
    simp [commentAt, hidle.openQuote, hidle.openComment, Boundary.ofComments, hnoComment]
  rw [step_eq hrest, hquoteAt]
  simp only [State.atQuote]
  rw [hcommentAt]
  by_cases hlimit : plan.options.limit = some s.cuts.size <;>
    simp [proceed, State.atComment, hidle.openComment, hidle.openQuote, Boundary.isClosing, hlimit]

theorem step_looks (hrest : cur.rest = c :: cs) (h : plan.Looks s cur.rest) :
    plan.step s cur = plan.inText s cur c.toString := by
  rw [step_idle hrest h.toIdle h.noQuote h.noComment, if_neg h.limit]

/-! ## There is no other way -/

theorem stop?_eq_some_iff {matched : String} : plan.stop? s cur = some matched ↔
    s.nesting = [] ∧ Delimiter.firstMatch? plan.stops cur s.buffer
      plan.options.caseInsensitive = some matched := by
  by_cases h : s.nesting = [] <;> simp [stop?, h]

theorem stop?_eq_none (hstops : plan.stops = []) (s : State) (cur : Cursor) :
    plan.stop? s cur = none := by
  simp [stop?, hstops, Delimiter.firstMatch?]

/-- Outside of blocks a boundary that leads nowhere else is none at all. -/
theorem blockAt_eq_none (hnesting : (s.atBlock (plan.blockAt s cur)).nesting = [])
    (hclosing : ¬ (plan.blockAt s cur).isClosing) : plan.blockAt s cur = .none := by
  cases hb : plan.blockAt s cur with
  | none => rfl
  | opens b => simp [hb, State.atBlock] at hnesting
  | closes b => simp [hb, Boundary.isClosing] at hclosing

theorem atDelimiter_of_match {text matched : String}
    (hmatch : Delimiter.firstMatch? plan.delims cur s.ensureToken.buffer
      plan.options.caseInsensitive = some matched) :
    plan.atDelimiter s cur text =
      .advanced (plan.cutState s cur matched (matchWidth matched text))
        (cur.advance (matchWidth matched text)) := by
  by_cases hpreserve : plan.options.preserveDelimiters <;>
    simp [atDelimiter, hmatch, cutState, hpreserve, matchWidth]

theorem atDelimiter_of_no_match {text : String}
    (hmatch : Delimiter.firstMatch? plan.delims cur s.ensureToken.buffer
      plan.options.caseInsensitive = none) :
    plan.atDelimiter s cur text = .plain s.ensureToken cur text := by
  simp [atDelimiter, hmatch]

theorem reaction_atDelimiter (hlooks : plan.Looks s cur.rest) (hstop : plan.stop? s cur = none)
    (hdelims : plan.delims ≠ []) (hnesting : s.nesting = [])
    (hblock : plan.blockAt s cur = .none) :
    plan.Reaction s cur c (plan.atDelimiter s cur c.toString) := by
  cases hmatch : Delimiter.firstMatch? plan.delims cur s.ensureToken.buffer
      plan.options.caseInsensitive with
  | none =>
    rw [atDelimiter_of_no_match hmatch]
    exact .unmatched hlooks hstop hdelims hnesting hblock hmatch
  | some matched =>
    rw [atDelimiter_of_match hmatch]
    exact .matched hlooks hstop hdelims hnesting hblock hmatch

/-! ### Outside of regions -/

theorem inText_eq (text : String) : plan.inText s cur text =
    match plan.stop? (s.atBlock (plan.blockAt s cur)) cur with
    | some matched => .finished { s.atBlock (plan.blockAt s cur) with
        stop := some ⟨matched, cur.offset, String.ofList cur.rest⟩ }
    | none =>
      if plan.delims.isEmpty then
        atBlockEdge (s.atBlock (plan.blockAt s cur)) cur (plan.blockAt s cur) text
      else if (s.atBlock (plan.blockAt s cur)).nesting.isEmpty &&
          !(plan.blockAt s cur).isClosing then
        plan.atDelimiter (s.atBlock (plan.blockAt s cur)) cur text
      else .plain (s.atBlock (plan.blockAt s cur)) cur ((plan.blockAt s cur).marker?.getD text) :=
  rfl

theorem inText_stopped {matched text : String}
    (hstop : plan.stop? (s.atBlock (plan.blockAt s cur)) cur = some matched) :
    plan.inText s cur text = .finished { s.atBlock (plan.blockAt s cur) with
      stop := some ⟨matched, cur.offset, String.ofList cur.rest⟩ } := by
  rw [inText_eq, hstop]

theorem inText_edge {text : String} (hstop : plan.stop? (s.atBlock (plan.blockAt s cur)) cur = none)
    (hdelims : plan.delims = []) : plan.inText s cur text =
      atBlockEdge (s.atBlock (plan.blockAt s cur)) cur (plan.blockAt s cur) text := by
  simp [inText_eq, hstop, hdelims]

theorem inText_nested {text : String}
    (hstop : plan.stop? (s.atBlock (plan.blockAt s cur)) cur = none) (hdelims : plan.delims ≠ [])
    (hnesting : (s.atBlock (plan.blockAt s cur)).nesting ≠ [] ∨ (plan.blockAt s cur).isClosing) :
    plan.inText s cur text =
      .plain (s.atBlock (plan.blockAt s cur)) cur ((plan.blockAt s cur).marker?.getD text) := by
  rcases hnesting with h | h <;> simp [inText_eq, hstop, hdelims, h]

theorem inText_flat {text : String} (hstop : plan.stop? s cur = none) (hdelims : plan.delims ≠ [])
    (hnesting : s.nesting = []) (hblock : plan.blockAt s cur = .none) :
    plan.inText s cur text = plan.atDelimiter s cur text := by
  simp [inText_eq, hblock, State.atBlock, hstop, hdelims, hnesting, Boundary.isClosing]

theorem reaction_inText (hlooks : plan.Looks s cur.rest) :
    plan.Reaction s cur c (plan.inText s cur c.toString) := by
  cases hstop : plan.stop? (s.atBlock (plan.blockAt s cur)) cur with
  | some matched =>
    obtain ⟨hnesting, hmatch⟩ := stop?_eq_some_iff.mp hstop
    rw [State.buffer_atBlock] at hmatch
    rw [inText_stopped hstop]
    exact .stopped hlooks hnesting hmatch
  | none =>
    by_cases hdelims : plan.delims = []
    · rw [inText_edge hstop hdelims]
      exact .edge hlooks hstop hdelims
    by_cases hnested : (s.atBlock (plan.blockAt s cur)).nesting ≠ [] ∨
        (plan.blockAt s cur).isClosing
    · rw [inText_nested hstop hdelims hnested]
      exact .nested hlooks hstop hdelims hnested
    · have hopen := not_or.mp hnested
      have hblock := blockAt_eq_none (not_not.mp hopen.1) hopen.2
      simp only [hblock, State.atBlock, not_not] at hopen hstop
      rw [inText_flat hstop hdelims hopen.1 hblock]
      exact reaction_atDelimiter hlooks hstop hdelims hopen.1 hblock

/-- The list of the ways through a step is complete. -/
theorem reaction_step (plan : Plan) (s : State) (hrest : cur.rest = c :: cs) :
    plan.Reaction s cur c (plan.step s cur) := by
  cases hcomment : s.openComment with
  | some k =>
    by_cases hend : s.openQuote = none ∧ Boundary.marked cur.rest k.finish
    · rw [step_comment_end hrest hend.1 hcomment hend.2]
      exact .commentEnds hend.1 hcomment hend.2
    · have hmark : s.openQuote = none → ¬ Boundary.marked cur.rest k.finish :=
        fun hquote hm => hend ⟨hquote, hm⟩
      rw [step_in_comment hrest hcomment hmark]
      exact .commentGoesOn hcomment hmark
  | none =>
    cases hquote : s.openQuote with
    | some mark =>
      by_cases hmark : Boundary.marked cur.rest mark
      · have hclosing : ∀ m ∈ s.openQuote, Boundary.marked cur.rest m := by
          simpa [hquote] using hmark
        cases hfind : plan.options.comments.find? (Boundary.marked cur.rest ·.start) with
        | some k =>
          rw [step_comment_begin hrest hcomment hclosing (by simp [hquote]) hfind]
          exact .commentBegins hclosing hcomment (List.mem_of_find?_eq_some hfind)
            (by simpa using List.find?_some hfind)
        | none =>
          rw [step_quote_end hrest hquote hcomment hmark hfind]
          exact .quoteEnds hquote hcomment hmark hfind
      · rw [step_in_quote hrest hquote hcomment hmark]
        exact .quoteGoesOn hquote hcomment hmark
    | none =>
      have hidle : s.Idle := ⟨hquote, hcomment⟩
      cases hq : plan.options.quotes.find? (Boundary.marked cur.rest) with
      | some mark =>
        rw [step_quote_begin hrest hidle hq]
        exact .quoteBegins hidle (List.mem_of_find?_eq_some hq) (List.find?_some hq)
      | none =>
        cases hfind : plan.options.comments.find? (Boundary.marked cur.rest ·.start) with
        | some k =>
          rw [step_comment_begin hrest hcomment (by simp [hquote]) (fun _ => hq) hfind]
          exact .commentBegins (by simp [hquote]) hcomment (List.mem_of_find?_eq_some hfind)
            (by simpa using List.find?_some hfind)
        | none =>
          rw [step_idle hrest hidle hq hfind]
          split
          · next hlimit => exact .limited hidle hq hfind hlimit
          · next hlimit => exact reaction_inText ⟨hidle, hq, hfind, hlimit⟩

/-- A step that goes on is one of the ways through it, taken at some character. -/
theorem exists_reaction {s' : State} {cur' : Cursor} (h : plan.step s cur = .advanced s' cur') :
    ∃ c cs, cur.rest = c :: cs ∧ plan.Reaction s cur c (.advanced s' cur') := by
  obtain ⟨c, cs, hrest⟩ := exists_cons_of_step h
  exact ⟨c, cs, hrest, h ▸ plan.reaction_step s hrest⟩

/-! ## The end of a scan -/

theorem inComment_ne_finished {b : Boundary Block} {c : String} {s' : State} :
    inComment s cur b c ≠ .finished s' := by
  unfold inComment
  dsimp only
  split <;> exact nofun

theorem atBlockEdge_ne_finished {b : Boundary Block} {c : String} {s' : State} :
    atBlockEdge s cur b c ≠ .finished s' := by
  cases b <;> exact nofun

/-- Before the end of the input, nothing but a stop ends a scan. -/
theorem stopped_of_finished {s' : State} (hrest : cur.rest = c :: cs)
    (h : plan.step s cur = .finished s') :
    ∃ matched, plan.Looks s cur.rest ∧ (s.atBlock (plan.blockAt s cur)).nesting = [] ∧
      Delimiter.firstMatch? plan.stops cur s.buffer plan.options.caseInsensitive = some matched ∧
      s' = { s.atBlock (plan.blockAt s cur) with
        stop := some ⟨matched, cur.offset, String.ofList cur.rest⟩ } := by
  have hreaction := plan.reaction_step s hrest
  rw [h] at hreaction
  generalize ho : Outcome.finished s' = o at hreaction
  cases hreaction with
  | stopped hlooks hnesting hmatch =>
    cases ho
    exact ⟨_, hlooks, hnesting, hmatch, rfl⟩
  | commentBegins | commentGoesOn | commentEnds => exact absurd ho.symm inComment_ne_finished
  | edge => exact absurd ho.symm atBlockEdge_ne_finished
  | quoteBegins | quoteGoesOn | quoteEnds | limited | matched | unmatched | nested => cases ho

/-- Without stops a scan ends where its input does. -/
theorem exists_reaches_end (hstops : plan.stops = []) (input : String) :
    ∃ s, plan.Reaches input s ⟨input, []⟩ ∧ plan.finalState input = s.ensureToken := by
  obtain ⟨s, ⟨before, rest⟩, s', hreach, hend, hfinal⟩ := exists_reaches_finished plan input
  cases rest with
  | nil =>
    rw [step_of_rest_nil rfl] at hend
    cases hend
    have htext : before = input := by simpa [Cursor.text] using hreach.text
    rw [htext] at hreach
    exact ⟨s, hreach, hfinal⟩
  | cons c cs =>
    obtain ⟨matched, -, -, hmatch, -⟩ := stopped_of_finished rfl hend
    simp [hstops, Delimiter.firstMatch?] at hmatch

end Plan

end DelimiterScan
