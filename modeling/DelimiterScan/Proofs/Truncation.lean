import DelimiterScan.Proofs.Extended
import DelimiterScan.Proofs.Nesting
import DelimiterScan.Proofs.Resolve

/-!
# Scans that are stopped

A scan that is stopped has seen the text in front of the stop as if it ended there: what it passed
on the way does not reach beyond the stop, and whatever else reaches there was not taken. So the
text in front of the stop is scanned by itself to the same result, unless the stop stands where the
outermost block closes; then this block is still open (`scan_truncated`).
-/

namespace DelimiterScan

/-! ## Searches that find what still stands -/

section Search

variable {α β : Type} {xs : List α}

theorem find?_of_fewer {p q : α → Bool} (himp : ∀ x, q x = true → p x = true)
    (hfound : ∀ x, xs.find? p = some x → q x = true) : xs.find? q = xs.find? p := by
  induction xs with
  | nil => rfl
  | cons x xs ih =>
    by_cases hp : p x = true
    · have hq : q x = true := hfound x (List.find?_cons_of_pos hp)
      rw [List.find?_cons_of_pos hp, List.find?_cons_of_pos hq]
    · have hq : ¬ q x = true := fun hq => hp (himp x hq)
      rw [List.find?_cons_of_neg hp] at hfound ⊢
      rw [List.find?_cons_of_neg hq, ih hfound]

theorem findSome?_of_fewer {f g : α → Option β} (hnone : ∀ x ∈ xs, f x = none → g x = none)
    (hsome : ∀ y, xs.findSome? f = some y → ∀ x ∈ xs, f x = some y → g x = some y) :
    xs.findSome? g = xs.findSome? f := by
  induction xs with
  | nil => rfl
  | cons x xs ih =>
    rw [List.findSome?_cons] at hsome ⊢
    rw [List.findSome?_cons]
    cases hf : f x with
    | some y =>
      rw [hf] at hsome
      rw [hsome y rfl x List.mem_cons_self hf]
    | none =>
      rw [hf] at hsome
      rw [hnone x List.mem_cons_self hf]
      exact ih (fun x hx => hnone x (List.mem_cons_of_mem _ hx))
        fun y hy x hx => hsome y hy x (List.mem_cons_of_mem _ hx)

end Search

namespace Boundary

variable {rest tail : List Char}

theorem marked_extend {marker : String} (h : marked rest marker = true) (tail : List Char) :
    marked (rest ++ tail) marker = true := by
  rw [marked_iff] at h ⊢
  exact ⟨h.1, h.2.trans (List.prefix_append rest tail)⟩

theorem marked_ofList {p : List Char} (hp : p ≠ []) (hbegins : p <+: rest) :
    marked rest (String.ofList p) = true := by
  rw [marked_iff, String.toList_ofList]
  exact ⟨by simpa using hp, hbegins⟩

theorem ofQuotes_extend {quotes : List String} {openQuote : Option String}
    (h : ∀ mark, (ofQuotes quotes openQuote (rest ++ tail)).quoteMark? = some mark →
      marked rest mark = true) :
    ofQuotes quotes openQuote (rest ++ tail) = ofQuotes quotes openQuote rest := by
  unfold ofQuotes at h ⊢
  cases openQuote with
  | some mark =>
    dsimp only at h ⊢
    by_cases hmark : marked (rest ++ tail) mark = true
    · rw [if_pos hmark] at h ⊢
      rw [if_pos (h mark rfl)]
    · rw [if_neg hmark, if_neg fun hshort => hmark (marked_extend hshort tail)]
  | none =>
    dsimp only at h ⊢
    have hfind : quotes.find? (marked rest) = quotes.find? (marked (rest ++ tail)) := by
      refine find?_of_fewer (fun mark hmark => marked_extend hmark tail) fun mark hmark => ?_
      rw [hmark] at h
      exact h mark rfl
    rw [hfind]

theorem ofComments_extend {comments : List Block} {openComment : Option Block}
    (h : ∀ marker, (ofComments comments openComment (rest ++ tail)).marker? = some marker →
      marked rest marker = true) :
    ofComments comments openComment (rest ++ tail) = ofComments comments openComment rest := by
  unfold ofComments at h ⊢
  cases openComment with
  | some k =>
    dsimp only at h ⊢
    by_cases hmark : marked (rest ++ tail) k.finish = true
    · rw [if_pos hmark] at h ⊢
      rw [if_pos (h k.finish rfl)]
    · rw [if_neg hmark, if_neg fun hshort => hmark (marked_extend hshort tail)]
  | none =>
    dsimp only at h ⊢
    have hfind : comments.find? (marked rest ·.start) =
        comments.find? (marked (rest ++ tail) ·.start) := by
      refine find?_of_fewer (fun k hmark => marked_extend hmark tail) fun k hk => ?_
      rw [hk] at h
      exact h k.start rfl
    rw [hfind]

/-- What a block does is what it does with less text, if its marker still stands. -/
theorem ofBlock?_extend {nesting : List Block} {k : Block} {b : Boundary Block}
    (hb : ofBlock? nesting (rest ++ tail) k = some b)
    (h : ∀ marker, b.marker? = some marker → marked rest marker = true) :
    ofBlock? nesting rest k = some b := by
  unfold ofBlock? at hb ⊢
  split at hb
  · cases hb
    rw [if_pos (h k.start rfl)]
  · next hstart =>
    rw [if_neg fun hshort => hstart (marked_extend hshort tail)]
    cases nesting with
    | nil => cases hb
    | cons innermost outer =>
      dsimp only at hb ⊢
      rw [Option.ite_none_right_eq_some] at hb
      obtain ⟨⟨hsame, -⟩, hb⟩ := hb
      cases hb
      rw [if_pos ⟨hsame, hsame ▸ h innermost.finish rfl⟩]

theorem ofBlock?_eq_none_of_extend {nesting : List Block} {k : Block}
    (hb : ofBlock? nesting (rest ++ tail) k = Option.none) :
    ofBlock? nesting rest k = Option.none := by
  unfold ofBlock? at hb ⊢
  split at hb
  · cases hb
  · next hstart =>
    rw [if_neg fun hshort => hstart (marked_extend hshort tail)]
    cases nesting with
    | nil => rfl
    | cons innermost outer =>
      dsimp only at hb ⊢
      by_cases hclose : k.finish = innermost.finish ∧ marked rest k.finish = true
      · rw [if_pos ⟨hclose.1, marked_extend hclose.2 tail⟩] at hb
        cases hb
      · rw [if_neg hclose]

theorem ofBlocks_extend {blocks nesting : List Block}
    (h : ∀ marker, (ofBlocks blocks nesting (rest ++ tail)).marker? = some marker →
      marked rest marker = true) :
    ofBlocks blocks nesting (rest ++ tail) = ofBlocks blocks nesting rest := by
  unfold ofBlocks at h ⊢
  have hfind : blocks.findSome? (ofBlock? nesting rest) =
      blocks.findSome? (ofBlock? nesting (rest ++ tail)) := by
    refine findSome?_of_fewer (fun k _ => ofBlock?_eq_none_of_extend) fun b hb k _ hk => ?_
    rw [hb] at h
    exact ofBlock?_extend hk h
  rw [hfind]

theorem mem_of_ofQuotes {quotes : List String} {openQuote : Option String} {mark : String}
    (h : (ofQuotes quotes openQuote rest).quoteMark? = some mark) :
    mark ∈ quotes ∨ openQuote = some mark := by
  unfold ofQuotes at h
  split at h
  · split at h
    · exact .inr h
    · cases h
  · split at h
    · next hfind =>
      cases h
      exact .inl (List.mem_of_find?_eq_some hfind)
    · cases h

theorem mem_of_ofComments {comments : List Block} {openComment : Option Block} {k : Block}
    (h : ofComments comments openComment rest = .opens k) : k ∈ comments := by
  unfold ofComments at h
  split at h
  · split at h <;> cases h
  · split at h
    · next hfind =>
      cases h
      exact List.mem_of_find?_eq_some hfind
    · cases h

theorem openComment_of_ofComments {comments : List Block} {openComment : Option Block} {k : Block}
    (h : ofComments comments openComment rest = .closes k) : openComment = some k := by
  unfold ofComments at h
  split at h
  · split at h
    · cases h
      rfl
    · cases h
  · split at h <;> cases h

end Boundary

namespace Delimiter

variable {rest tail : List Char} {caseInsensitive : Bool}

/-- The text that is compared with a literal. -/
theorem exists_candidate {text : String}
    (h : literalStandsAt text rest caseInsensitive = true) :
    ∃ p, p <+: rest ∧ Text.byteSize p = text.utf8ByteSize := by
  unfold literalStandsAt at h
  split at h
  · cases h
  · next p htake => exact ⟨p, Text.takeBytes?_eq_some_iff.mp htake⟩

/-- Whether a literal stands somewhere is decided by the text that is compared with it. -/
theorem literalStandsAt_extend {text : String} {p : List Char} (hbegins : p <+: rest)
    (hsize : Text.byteSize p = text.utf8ByteSize) (tail : List Char) :
    literalStandsAt text (rest ++ tail) caseInsensitive =
      literalStandsAt text rest caseInsensitive := by
  have hlong := hbegins.trans (List.prefix_append rest tail)
  unfold literalStandsAt
  rw [Text.takeBytes?_eq_some_iff.mpr ⟨hbegins, hsize⟩,
    Text.takeBytes?_eq_some_iff.mpr ⟨hlong, hsize⟩]

/-- Literals match as they do in less text, if the text that is compared with the match is there. -/
theorem firstMatch?_extend_of_literals {ds : List Delimiter} {cur : Cursor} {buffer : TokenBuffer}
    (hliterals : ∀ d ∈ ds, ∃ text, d = .literal text)
    (hfits : ∀ matched, firstMatch? ds (cur.extend tail) buffer caseInsensitive = some matched →
      ∃ p, p <+: cur.rest ∧ Text.byteSize p = matched.utf8ByteSize) :
    firstMatch? ds (cur.extend tail) buffer caseInsensitive =
      firstMatch? ds cur buffer caseInsensitive := by
  refine (findSome?_of_fewer (fun d hd hnone => ?_) fun matched hfirst d hd hmatch => ?_).symm
  · obtain ⟨text, rfl⟩ := hliterals d hd
    rw [match?, ite_eq_right_iff] at hnone ⊢
    intro hshort
    obtain ⟨p, hbegins, hsize⟩ := exists_candidate hshort
    rw [← literalStandsAt_extend hbegins hsize tail] at hshort
    cases hnone hshort
  · obtain ⟨text, rfl⟩ := hliterals d hd
    obtain ⟨p, hbegins, hsize⟩ := hfits matched hfirst
    rw [match?, Option.ite_none_right_eq_some, Option.some.injEq] at hmatch ⊢
    obtain ⟨hstands, rfl⟩ := hmatch
    rw [Cursor.rest_extend, literalStandsAt_extend hbegins hsize] at hstands
    exact ⟨hstands, rfl⟩

end Delimiter

/-! ## One step -/

namespace Cursor

variable {cur next : Cursor} {tail : List Char}

/-- What is passed in front of a place stands in the text that ends there. -/
theorem marked_of_advance_extend {text : String}
    (hmark : Boundary.marked (cur.extend tail).rest text = true)
    (h : (cur.extend tail).advance text.utf8ByteSize = next.extend tail) :
    Boundary.marked cur.rest text = true := by
  obtain ⟨hne, ys, hys⟩ := Boundary.marked_iff.mp hmark
  have hchars : text.toList ≠ [] := by simpa using hne
  rw [← Text.byteSize_toList, advance_byteSize hys.symm hchars] at h
  have hrest : ys = next.rest ++ tail := congrArg Cursor.rest h
  rw [hrest, rest_extend, ← List.append_assoc, List.append_left_inj] at hys
  exact Boundary.marked_iff.mpr ⟨hne, next.rest, hys⟩

/-- In front of a place everything is in front of it. -/
theorem exists_extend_of_advance {width : Nat} (h : cur.advance width = next.extend tail) :
    ∃ short : Cursor, cur = short.extend tail := by
  have hrest := Text.splitBytes_append (max width 1) cur.rest
  have hbehind : (Text.splitBytes (max width 1) cur.rest).2 = next.rest ++ tail :=
    congrArg Cursor.rest h
  rw [hbehind, ← List.append_assoc] at hrest
  refine ⟨⟨cur.before, (Text.splitBytes (max width 1) cur.rest).1 ++ next.rest⟩, ?_⟩
  rw [extend, hrest]

end Cursor

/-- Delimiters and stops are literals that are not compiled, and no mark of a quotation stands where
a comment begins. -/
structure ReadsLiterals (options : Options) (delims : List Delimiter) : Prop where
  useRegex : options.useRegex = none
  delims : ∀ d ∈ delims, ∃ text, d = .literal text
  stops : ∀ d ∈ options.stops, ∃ text, d = .literal text
  apart : ∀ mark ∈ options.quotes, ∀ k ∈ options.comments, mark ≠ "" → k.start ≠ "" →
    ¬ mark.toList <+: k.start.toList ∧ ¬ k.start.toList <+: mark.toList

namespace Plan

variable {plan : Plan} {s t : State} {cur cur' next : Cursor} {c : Char} {cs tail : List Char}
  {marker : String}

/-! ### How far a step goes -/

theorem cursor_of_inComment {b : Boundary Block} {text : String} (hmark : b.marker? = some marker)
    (h : inComment s cur b text = .advanced t cur') : cur' = cur.advance marker.utf8ByteSize := by
  unfold inComment at h
  dsimp only [Outcome.plain] at h
  rw [hmark, Option.getD_some] at h
  split at h <;> cases h <;> rfl

/-- A step passes the marker of a comment that begins or ends. -/
theorem cursor_of_commentAt (hrest : cur.rest = c :: cs)
    (hmark : (plan.commentAt (s.atQuote (plan.quoteAt s cur)) cur).marker? = some marker)
    (h : plan.step s cur = .advanced t cur') : cur' = cur.advance marker.utf8ByteSize := by
  rw [step_eq hrest] at h
  generalize plan.commentAt (s.atQuote (plan.quoteAt s cur)) cur = comment at h hmark
  cases comment with
  | none => cases hmark
  | opens k =>
    rw [proceed, if_pos (by rfl)] at h
    exact cursor_of_inComment hmark h
  | closes k =>
    rw [proceed, if_pos (by simp [Boundary.isClosing])] at h
    exact cursor_of_inComment hmark h

theorem openComment_of_quoteAt (hmark : (plan.quoteAt s cur).quoteMark? = some marker) :
    s.openComment = none := by
  by_contra hopen
  rw [quoteAt, if_neg (by simpa using hopen)] at hmark
  cases hmark

/-- A step passes the mark of a quotation that begins or ends, unless a comment begins there. -/
theorem cursor_of_quoteAt (hrest : cur.rest = c :: cs)
    (hmark : (plan.quoteAt s cur).quoteMark? = some marker)
    (hcomment : plan.commentAt (s.atQuote (plan.quoteAt s cur)) cur = .none)
    (h : plan.step s cur = .advanced t cur') : cur' = cur.advance marker.utf8ByteSize := by
  have hclosed := openComment_of_quoteAt hmark
  rw [step_eq hrest, hcomment] at h
  generalize plan.quoteAt s cur = quote at h hmark
  cases quote with
  | none => cases hmark
  | opens mark =>
    cases hmark
    rw [proceed, if_neg (by simp [State.atComment, State.atQuote, hclosed, Boundary.isClosing]),
      if_pos (by rfl)] at h
    cases h
    rfl
  | closes mark =>
    cases hmark
    rw [proceed, if_neg (by simp [State.atComment, State.atQuote, hclosed, Boundary.isClosing]),
      if_pos (by simp [Boundary.isClosing])] at h
    cases h
    rfl

/-- A step that looks for blocks passes the marker of one that opens or closes. -/
theorem cursor_of_blockAt {text : String} (hmark : (plan.blockAt s cur).marker? = some marker)
    (h : plan.inText s cur text = .advanced t cur') : cur' = cur.advance marker.utf8ByteSize := by
  rw [inText_eq] at h
  generalize plan.blockAt s cur = b at h hmark
  cases b with
  | none => cases hmark
  | opens k =>
    cases hmark
    split at h
    · cases h
    · split at h
      · cases h
        rfl
      · rw [if_neg (by simp [State.atBlock])] at h
        cases h
        rfl
  | closes k =>
    cases hmark
    split at h
    · cases h
    · split at h
      · cases h
        rfl
      · rw [if_neg (by simp [Boundary.isClosing])] at h
        cases h
        rfl

theorem matchWidth_of_candidate {p : List Char} {matched text : String} (hp : p ≠ [])
    (hsize : Text.byteSize p = matched.utf8ByteSize) :
    matchWidth matched text = (String.ofList p).utf8ByteSize := by
  rw [Text.utf8ByteSize_ofList, hsize]
  refine if_neg fun hempty => ?_
  have hpos := Text.byteSize_pos hp
  rw [hsize, hempty] at hpos
  cases hpos

/-! ### What a step in front of a place sees -/

theorem quoteAt_extend (h : ∀ mark, (plan.quoteAt s (cur.extend tail)).quoteMark? = some mark →
      Boundary.marked cur.rest mark = true) :
    plan.quoteAt s (cur.extend tail) = plan.quoteAt s cur := by
  unfold quoteAt at h ⊢
  split
  · next hclosed =>
    rw [if_pos hclosed] at h
    exact Boundary.ofQuotes_extend h
  · rfl

theorem commentAt_extend (h : ∀ marker, (plan.commentAt s (cur.extend tail)).marker? =
      some marker → Boundary.marked cur.rest marker = true) :
    plan.commentAt s (cur.extend tail) = plan.commentAt s cur := by
  unfold commentAt at h ⊢
  split
  · next hclosed =>
    rw [if_pos hclosed] at h
    exact Boundary.ofComments_extend h
  · rfl

theorem blockAt_extend (h : ∀ marker, (plan.blockAt s (cur.extend tail)).marker? = some marker →
      Boundary.marked cur.rest marker = true) :
    plan.blockAt s (cur.extend tail) = plan.blockAt s cur :=
  Boundary.ofBlocks_extend h

section Literals

variable (hreads : ReadsLiterals plan.options plan.delims)
  (hstops : plan.stops = plan.options.stops)

include hreads

/-- Where a quotation begins or ends, no comment does. -/
theorem commentAt_of_quoteAt (hopened : s.Opened plan)
    (hmark : (plan.quoteAt s cur).quoteMark? = some marker) :
    plan.commentAt (s.atQuote (plan.quoteAt s cur)) cur = .none := by
  have hclosed : (s.atQuote (plan.quoteAt s cur)).openComment = none := by
    have hnone := openComment_of_quoteAt hmark
    cases plan.quoteAt s cur <;> exact hnone
  obtain ⟨hne, hbegins⟩ := Boundary.marked_iff.mp (marked_quoteAt plan s cur marker hmark)
  have hmem : marker ∈ plan.options.quotes := by
    rw [quoteAt, if_pos (by simp [openComment_of_quoteAt hmark])] at hmark
    rcases Boundary.mem_of_ofQuotes hmark with hmem | hopen
    · exact hmem
    · exact (hopened.quote marker hopen).1
  cases hcomment : plan.commentAt (s.atQuote (plan.quoteAt s cur)) cur with
  | none => rfl
  | opens k =>
    obtain ⟨hne', hbegins'⟩ := Boundary.marked_iff.mp
      (marked_commentAt plan _ cur k.start (by rw [hcomment]; rfl))
    have hk : k ∈ plan.options.comments := by
      unfold commentAt at hcomment
      split at hcomment
      · exact Boundary.mem_of_ofComments hcomment
      · cases hcomment
    obtain ⟨hmark', hstart⟩ := hreads.apart marker hmem k hk hne hne'
    rcases List.prefix_or_prefix_of_prefix hbegins hbegins' with h | h
    · exact absurd h hmark'
    · exact absurd h hstart
  | closes k =>
    unfold commentAt at hcomment
    split at hcomment
    · have hopen := Boundary.openComment_of_ofComments hcomment
      rw [hclosed] at hopen
      cases hopen
    · cases hcomment

variable (hrest : cur.rest = c :: cs)

include hrest

theorem extends_atDelimiter_of_literals (htail : tail ≠ [])
    (h : plan.atDelimiter s (cur.extend tail) c.toString = .advanced t (next.extend tail)) :
    Outcome.Extends tail (plan.atDelimiter s cur c.toString)
      (plan.atDelimiter s (cur.extend tail) c.toString) := by
  have hfits : ∀ matched, Delimiter.firstMatch? plan.delims (cur.extend tail) s.ensureToken.buffer
      plan.options.caseInsensitive = some matched →
      ∃ p, p <+: cur.rest ∧ Text.byteSize p = matched.utf8ByteSize := by
    intro matched hmatch
    obtain ⟨p, hbegins, hsize⟩ :=
      Delimiter.exists_candidate (Delimiter.literal_of_firstMatch? hreads.delims hmatch).2
    refine ⟨p, ?_, hsize⟩
    by_cases hp : p = []
    · exact hp ▸ List.nil_prefix
    · rw [atDelimiter_of_match hmatch, matchWidth_of_candidate hp hsize] at h
      injection h with _ hadvance
      have hmark := Cursor.marked_of_advance_extend (Boundary.marked_ofList hp hbegins) hadvance
      simpa using (Boundary.marked_iff.mp hmark).2
  have hsame := Delimiter.firstMatch?_extend_of_literals hreads.delims hfits
  refine extends_atDelimiter hrest htail hsame fun matched hmatch => ?_
  obtain ⟨p, hbegins, hsize⟩ := hfits matched (hsame.trans hmatch)
  by_cases hp : p = []
  · have hmatched : matched = "" := by
      rw [hp, Text.byteSize_nil] at hsize
      exact String.utf8ByteSize_eq_zero_iff.mp hsize.symm
    exact ⟨c.toString, Boundary.marked_toString hrest, if_pos hmatched⟩
  · exact ⟨String.ofList p, Boundary.marked_ofList hp hbegins, matchWidth_of_candidate hp hsize⟩

include hstops

omit hrest in
/-- Where no stop stands with more text behind, none stands without it. -/
theorem stop?_of_extend (hstop : plan.stop? s (cur.extend tail) = none) :
    plan.stop? s cur = none := by
  unfold stop? at hstop ⊢
  split at hstop
  · next hflat =>
    rw [if_pos hflat, ← Delimiter.firstMatch?_extend_of_literals (hstops ▸ hreads.stops)
      fun matched hmatch => ?_]
    · exact hstop
    · rw [hstop] at hmatch
      cases hmatch
  · next hnested => exact if_neg hnested

theorem extends_inText_of_literals (htail : tail ≠ [])
    (h : plan.inText s (cur.extend tail) c.toString = .advanced t (next.extend tail)) :
    Outcome.Extends tail (plan.inText s cur c.toString)
      (plan.inText s (cur.extend tail) c.toString) := by
  have hblock : plan.blockAt s (cur.extend tail) = plan.blockAt s cur :=
    blockAt_extend fun marker hmark => Cursor.marked_of_advance_extend
      (Boundary.marked_ofBlocks hmark) (cursor_of_blockAt hmark h).symm
  have hstop : plan.stop? (s.atBlock (plan.blockAt s cur)) (cur.extend tail) = none := by
    rw [inText_eq, hblock] at h
    split at h
    · cases h
    · assumption
  refine extends_inText hrest hblock (stop?_of_extend hreads hstops hstop) hstop ?_
  intro t' hcut
  exact extends_atDelimiter_of_literals hreads hrest htail (hcut.symm.trans h)

/-- A step that stays in front of a place sees nothing behind it. -/
theorem extends_step_of_literals (hopened : s.Opened plan) (htail : tail ≠ [])
    (h : plan.step s (cur.extend tail) = .advanced t (next.extend tail)) :
    Outcome.Extends tail (plan.step s cur) (plan.step s (cur.extend tail)) := by
  have hrest' : (cur.extend tail).rest = c :: (cs ++ tail) := by
    rw [Cursor.rest_extend, hrest, List.cons_append]
  have hquote : plan.quoteAt s (cur.extend tail) = plan.quoteAt s cur := by
    refine quoteAt_extend fun mark hmark => ?_
    exact Cursor.marked_of_advance_extend (marked_quoteAt plan s _ mark hmark)
      (cursor_of_quoteAt hrest' hmark (commentAt_of_quoteAt hreads hopened hmark) h).symm
  have hcomment : plan.commentAt (s.atQuote (plan.quoteAt s cur)) (cur.extend tail) =
      plan.commentAt (s.atQuote (plan.quoteAt s cur)) cur := by
    refine commentAt_extend fun marker hmark => ?_
    rw [← hquote] at hmark
    exact Cursor.marked_of_advance_extend (marked_commentAt plan _ _ marker hmark)
      (cursor_of_commentAt hrest' hmark h).symm
  exact extends_step hrest hquote hcomment fun t' htext =>
    extends_inText_of_literals hreads hstops hrest htail (htext.symm.trans h)

end Literals

/-! ## The text in front of a stop -/

/-- A scan that comes by a place comes there as a scan of the text in front of it alone. -/
theorem reaches_in_front {input : String} (hreads : ReadsLiterals plan.options plan.delims)
    (hstops : plan.stops = plan.options.stops) (htail : tail ≠ []) (h : plan.Reaches input s cur) :
    ∀ short : Cursor, cur = short.extend tail →
      ∃ t, plan.Reaches short.text t short ∧ s.ensureToken = t.ensureToken ∧
        (short.rest ≠ [] → s = t) := by
  refine h.induct (motive := fun s cur => ∀ short : Cursor, cur = short.extend tail →
    ∃ t, plan.Reaches short.text t short ∧ s.ensureToken = t.ensureToken ∧
      (short.rest ≠ [] → s = t)) ?_ ?_
  · intro short hshort
    have hbefore : "" = short.before := congrArg Cursor.before hshort
    have hstart : short = Cursor.ofText short.text := by
      obtain ⟨before, rest⟩ := short
      obtain rfl : before = "" := hbefore.symm
      simp [Cursor.ofText, Cursor.text]
    have hreach : plan.Reaches short.text {} (Cursor.ofText short.text) := .start
    rw [← hstart] at hreach
    exact ⟨{}, hreach, rfl, fun _ => rfl⟩
  · rintro s s' cur cur' hreach ih hstep next rfl
    obtain ⟨width, hadvance⟩ := step_advances hstep
    obtain ⟨short, rfl⟩ := Cursor.exists_extend_of_advance hadvance.symm
    obtain ⟨t, hfront, -, hsame⟩ := ih short rfl
    -- The step has passed text in front of the place, so both runs are in the same state before it.
    have hne : short.rest ≠ [] := by
      intro hnil
      have hshorter := length_rest_of_step hstep
      simp only [Cursor.rest_extend, List.length_append, hnil, List.length_nil] at hshorter
      omega
    obtain rfl : s = t := hsame hne
    obtain ⟨c, cs, hrest⟩ := List.exists_cons_of_ne_nil hne
    have hextends := extends_step_of_literals hreads hstops hrest hreach.opened htail hstep
    generalize hlong : plan.step s (short.extend tail) = long at hextends
    generalize hshort : plan.step s short = o at hextends
    cases hextends with
    | @advanced u v shorter hstate hsame' =>
      rw [hstep] at hlong
      injection hlong with hv hnext
      obtain rfl : next = shorter := Cursor.extend_inj.mp hnext
      subst hv
      have htext : next.text = short.text := by
        obtain ⟨width, rfl⟩ := step_advances hshort
        exact Cursor.advance_text short width
      exact ⟨u, htext ▸ hfront.step hshort, hstate, hsame'⟩

/-- Where a scan comes by, the text in front has been scanned as if it ended there. -/
theorem finalState_in_front {input : String} (hreads : ReadsLiterals plan.options plan.delims)
    (hstops : plan.stops = plan.options.stops) (h : plan.Reaches input s cur)
    (hrest : cur.rest ≠ []) : plan.finalState cur.before = s.ensureToken := by
  obtain ⟨t, hfront, hsame, -⟩ := reaches_in_front hreads hstops hrest h ⟨cur.before, []⟩ rfl
  rw [Cursor.text, String.ofList_nil, String.append_empty] at hfront
  rw [finalState_eq hfront (step_of_rest_nil rfl), hsame]

end Plan

/-- A result that was stopped comes from a step that saw a stop outside of blocks. -/
theorem exists_stopped {plan : Plan} {options : Options} {delims : List Delimiter} {input : String}
    {r : ScanResult} {stop : Stop} (hmake : Plan.make options delims = .ok plan)
    (hscan : scan input options delims = .ok r) (hstop : r.stop = some stop) :
    ∃ s cur t, plan.Reaches input s cur ∧ cur.rest ≠ [] ∧ plan.step s cur = .finished t ∧
      t = { s.atBlock (plan.blockAt s cur) with stop := some stop } ∧ t.nesting = [] ∧
      (∃ matched, stop = ⟨matched, cur.offset, String.ofList cur.rest⟩) ∧ s.stop = none ∧
      r = t.ensureToken.result delims options := by
  obtain ⟨s, cur, t, hreach, hend, hfinal⟩ := Plan.exists_reaches_finished plan input
  obtain ⟨xs, htiled⟩ := exists_tiled hreach
  rw [scan_of_make hmake, hfinal, State.verdict_eq_ok_iff] at hscan
  obtain ⟨hnesting, rfl⟩ := hscan
  have hstopped : t.stop = some stop := hstop
  -- Nothing but the last step can have stopped the scan, and the end of the text does not.
  have hne : cur.rest ≠ [] := by
    intro hnil
    rw [Plan.step_of_rest_nil hnil] at hend
    cases hend
    rw [htiled.stop] at hstopped
    cases hstopped
  obtain ⟨c, cs, hrest⟩ := List.exists_cons_of_ne_nil hne
  obtain ⟨matched, -, -, -, rfl⟩ := Plan.stopped_of_finished hrest hend
  obtain rfl : (⟨matched, cur.offset, String.ofList cur.rest⟩ : Stop) = stop :=
    Option.some.inj hstopped
  exact ⟨s, cur, _, hreach, hne, hend, rfl, hnesting, ⟨matched, rfl⟩, htiled.stop, rfl⟩

/-- The scan of `input` comes by `s` behind `front` and is stopped there, with the result `r`. The
scan of `front` alone gives the same, unless the stop closes a block: this is the outermost one, and
it is still open in front of the stop. -/
structure TruncatedAt (plan : Plan) (input : String) (r : ScanResult) (stop : Stop)
    (front : String) (s : State) : Prop where
  text : input = front ++ stop.rest
  offset : front.utf8ByteSize = stop.offset
  rest : stop.rest ≠ ""
  reach : plan.Reaches input s ⟨front, stop.rest.toList⟩
  finished : ∃ t, plan.step s ⟨front, stop.rest.toList⟩ = .finished t ∧ t.stop = some stop
  kept : (∀ k, plan.blockAt s ⟨front, stop.rest.toList⟩ ≠ .closes k) →
    scan front plan.options plan.delims = .ok { r with stop := none }
  closed : ∀ k, plan.blockAt s ⟨front, stop.rest.toList⟩ = .closes k → s.nesting = [k] ∧
    scan front plan.options plan.delims = .error (.unterminatedBlock [k])

/-- A stop is the end of the text in front of it. -/
theorem scan_truncated {options : Options} {delims : List Delimiter} {input : String}
    {r : ScanResult} {stop : Stop} (hreads : ReadsLiterals options delims)
    (hscan : scan input options delims = .ok r) (hstop : r.stop = some stop) :
    ∃ front s, TruncatedAt ⟨options, delims, options.stops⟩ input r stop front s := by
  have hmake : Plan.make options delims = .ok ⟨options, delims, options.stops⟩ := by
    rw [Plan.make_eq_ok_iff, hreads.useRegex]
    exact ⟨rfl, rfl, rfl⟩
  generalize hplan : (⟨options, delims, options.stops⟩ : Plan) = plan at hmake ⊢
  obtain ⟨rfl, rfl, hstops⟩ : options = plan.options ∧ delims = plan.delims ∧
      plan.stops = plan.options.stops := hplan ▸ ⟨rfl, rfl, rfl⟩
  obtain ⟨s, cur, t, hreach, hne, hend, ht, hnesting, ⟨matched, rfl⟩, hnone, rfl⟩ :=
    exists_stopped hmake hscan hstop
  have hfront : scan cur.before plan.options plan.delims =
      s.ensureToken.verdict plan.delims plan.options := by
    rw [scan_of_make hmake, Plan.finalState_in_front hreads hstops hreach hne]
  have hplace : (⟨cur.before, (String.ofList cur.rest).toList⟩ : Cursor) = cur := by
    rw [String.toList_ofList]
  refine ⟨cur.before, s, ?_, rfl, by simpa using hne, ?_, ⟨t, ?_, hstop⟩, ?_, ?_⟩
  · exact hreach.text.symm
  · rwa [hplace]
  · rwa [hplace]
  · rw [hplace]
    intro hopen
    have hblock : plan.blockAt s cur = .none := by
      refine Plan.blockAt_eq_none (by rw [ht] at hnesting; exact hnesting) fun hclosing => ?_
      cases hb : plan.blockAt s cur with
      | none => rw [hb] at hclosing; cases hclosing
      | opens k => rw [hb] at hclosing; cases hclosing
      | closes k => exact hopen k hb
    rw [hblock] at ht
    subst ht
    have hflat : s.ensureToken.nesting = [] := hnesting
    rw [hfront, State.verdict_of_nil hflat, State.result,
      show s.ensureToken.stop = none from hnone]
    rfl
  · rw [hplace]
    intro k hclose
    obtain ⟨⟨outer, hs⟩, -⟩ := Boundary.closes_of_ofBlocks hclose
    obtain rfl : outer = [] := by
      rw [ht, hclose, State.atBlock, hs] at hnesting
      exact hnesting
    have hopen : s.ensureToken.nesting = [k] := hs
    rw [hfront, State.verdict_of_ne_nil (by simp [hopen]), hopen]
    exact ⟨hs, rfl⟩

/-- Where a group ends at a stop, it is still open in front of the stop. -/
theorem scan_truncated_closing_group :
    ReadsLiterals { stops := [")"] } [","] ∧
    (∃ r, scan "a,(b)c" { stops := [")"] } [","] = .ok r ∧ r.stop = some ⟨")", 4, ")c"⟩ ∧
      ∃ front s, TruncatedAt ⟨{ stops := [")"] }, [","], [")"]⟩ "a,(b)c" r ⟨")", 4, ")c"⟩ front s) ∧
    scan "a,(b" { stops := [")"] } [","] = .error (.unterminatedBlock [⟨"(", ")"⟩]) := by
  have hreads : ReadsLiterals { stops := [")"] } [","] := by
    refine ⟨rfl, by simp, by simp, ?_⟩
    decide
  exact ⟨hreads, ⟨_, rfl, rfl, scan_truncated hreads rfl rfl⟩, rfl⟩

end DelimiterScan
