import DelimiterScan.Proofs.Alike
import DelimiterScan.Proofs.Extended
import DelimiterScan.Proofs.Opened
import Mathlib.Data.List.Find

/-!
# In front of a separator

A separator is a delimiter of one character that no marker and no other delimiter contains. So
nothing reaches across it, and a scan comes to it in the same way as to the end of a text
(`leads_to_separator`). There is one difference: behind a cut at the end of a text the next token is
begun at once.
-/

namespace DelimiterScan

/-- The character is a delimiter, no marker and no other delimiter contains it, and nothing but the
text ahead decides what matches. -/
structure Separates (sep : Char) (options : Options) (delims : List Delimiter) : Prop where
  limit : options.limit = none
  stops : options.stops = []
  useRegex : options.useRegex = none
  caseInsensitive : options.caseInsensitive = false
  delimiter : .literal sep.toString ∈ delims
  literals : ∀ d ∈ delims, ∃ text, d = .literal text ∧ text ≠ "" ∧
    (text = sep.toString ∨ sep ∉ text.toList)
  blocks : ∀ k ∈ options.blocks, sep ∉ k.start.toList ∧ sep ∉ k.finish.toList
  quotes : ∀ mark ∈ options.quotes, sep ∉ mark.toList
  comments : ∀ k ∈ options.comments, sep ∉ k.start.toList ∧ sep ∉ k.finish.toList

namespace Separates

variable {sep : Char} {options : Options} {delims : List Delimiter}

theorem delims_ne_nil (h : Separates sep options delims) : delims ≠ [] :=
  List.ne_nil_of_mem h.delimiter

theorem predicate_notMem (h : Separates sep options delims) (p : Predicate) :
    .predicate p ∉ delims := by
  intro hp
  obtain ⟨text, htext, -⟩ := h.literals _ hp
  cases htext

/-- With a separator there is nothing to compile. -/
theorem make_eq_ok (h : Separates sep options delims) :
    Plan.make options delims = .ok ⟨options, delims, []⟩ := by
  refine Plan.make_eq_ok_iff.mpr ⟨rfl, ?_, ?_⟩
  · rw [h.useRegex]
    rfl
  · rw [h.useRegex, h.stops]
    rfl

end Separates

/-! ## Markers do not reach across -/

theorem List.prefix_append_cons_iff {α : Type} {a : α} {xs ys zs : List α} (h : a ∉ xs) :
    xs <+: ys ++ a :: zs ↔ xs <+: ys := by
  constructor
  · intro hxs
    rcases List.prefix_or_prefix_of_prefix hxs (List.prefix_append ys (a :: zs)) with hle | hle
    · exact hle
    · obtain ⟨more, rfl⟩ := hle
      cases more with
      | nil => simp
      | cons b more =>
        obtain ⟨rfl, -⟩ := List.cons_prefix_cons.mp ((List.prefix_append_right_inj ys).mp hxs)
        simp at h
  · intro hxs
    exact hxs.trans (List.prefix_append ys (a :: zs))

namespace Boundary

variable {sep : Char} {rest tail : List Char}

theorem marked_append_cons {marker : String} (h : sep ∉ marker.toList) (rest tail : List Char) :
    marked (rest ++ sep :: tail) marker = marked rest marker := by
  rw [Bool.eq_iff_iff, marked_iff, marked_iff, List.prefix_append_cons_iff h]

theorem ofQuotes_append_cons {quotes : List String} {openQuote : Option String}
    (h : ∀ mark ∈ quotes, sep ∉ mark.toList) (hopen : ∀ mark ∈ openQuote, mark ∈ quotes)
    (rest tail : List Char) :
    ofQuotes quotes openQuote (rest ++ sep :: tail) = ofQuotes quotes openQuote rest := by
  cases openQuote with
  | some mark =>
    have hmark : sep ∉ mark.toList := h mark (hopen mark rfl)
    simp only [ofQuotes, marked_append_cons hmark]
  | none =>
    have hfind : quotes.find? (marked (rest ++ sep :: tail)) = quotes.find? (marked rest) :=
      List.find?_congr fun mark hmark => marked_append_cons (h mark hmark) rest tail
    simp only [ofQuotes, hfind]

theorem ofComments_append_cons {comments : List Block} {openComment : Option Block}
    (h : ∀ k ∈ comments, sep ∉ k.start.toList ∧ sep ∉ k.finish.toList)
    (hopen : ∀ k ∈ openComment, k ∈ comments) (rest tail : List Char) :
    ofComments comments openComment (rest ++ sep :: tail) =
      ofComments comments openComment rest := by
  cases openComment with
  | some k =>
    have hk : sep ∉ k.finish.toList := (h k (hopen k rfl)).2
    simp only [ofComments, marked_append_cons hk]
  | none =>
    have hfind : comments.find? (marked (rest ++ sep :: tail) ·.start) =
        comments.find? (marked rest ·.start) :=
      List.find?_congr fun k hk => marked_append_cons (h k hk).1 rest tail
    simp only [ofComments, hfind]

theorem ofBlocks_append_cons {blocks : List Block}
    (h : ∀ k ∈ blocks, sep ∉ k.start.toList ∧ sep ∉ k.finish.toList) (nesting : List Block)
    (rest tail : List Char) :
    ofBlocks blocks nesting (rest ++ sep :: tail) = ofBlocks blocks nesting rest := by
  have hblock : ∀ k ∈ blocks,
      ofBlock? nesting (rest ++ sep :: tail) k = ofBlock? nesting rest k := by
    intro k hk
    obtain ⟨hstart, hfinish⟩ := h k hk
    simp only [ofBlock?, marked_append_cons hstart, marked_append_cons hfinish]
  rw [ofBlocks, Delimiter.findSome?_congr hblock, ofBlocks]

end Boundary

namespace Delimiter

variable {sep : Char} {options : Options} {delims : List Delimiter} {cur : Cursor}

/-- Where there is text in front of the separator, no delimiter reaches into it. -/
theorem firstMatch?_extend (hsep : Separates sep options delims) (hrest : cur.rest ≠ [])
    (tail : List Char) (buffer : TokenBuffer) :
    firstMatch? delims (cur.extend (sep :: tail)) buffer false =
      firstMatch? delims cur buffer false := by
  refine findSome?_congr fun d hd => ?_
  obtain ⟨text, rfl, -, htext⟩ := hsep.literals d hd
  have hstands : literalStandsAt text (cur.rest ++ sep :: tail) false =
      literalStandsAt text cur.rest false := by
    rw [Bool.eq_iff_iff, literalStandsAt_iff, literalStandsAt_iff]
    rcases htext with rfl | hsep
    · obtain ⟨c, cs, hcons⟩ := List.exists_cons_of_ne_nil hrest
      simp [hcons, Char.toString]
    · exact List.prefix_append_cons_iff hsep
  simp only [match?, Cursor.rest_extend, hstands]

/-- Where delimiters match, one of them stands. -/
theorem marked_of_firstMatch? (hsep : Separates sep options delims) {buffer : TokenBuffer}
    {matched : String} (hmatch : firstMatch? delims cur buffer false = some matched) :
    Boundary.marked cur.rest matched = true := by
  have hliterals : ∀ d ∈ delims, ∃ text, d = .literal text := fun d hd =>
    (hsep.literals d hd).imp fun _ htext => htext.1
  obtain ⟨hmem, hstands⟩ := literal_of_firstMatch? hliterals hmatch
  obtain ⟨text, htext, hne, -⟩ := hsep.literals _ hmem
  cases htext
  exact Boundary.marked_iff.mpr ⟨hne, literalStandsAt_iff.mp hstands⟩

end Delimiter

/-! ## Steps in front of the separator -/

namespace Plan

variable {plan : Plan} {sep : Char} {s : State} {cur : Cursor} {c : Char} {cs : List Char}

section Separator

variable (hsep : Separates sep plan.options plan.delims) (hrest : cur.rest = c :: cs)

include hsep hrest

theorem extends_atDelimiter_separator (s : State) (tail : List Char) :
    Outcome.Extends (sep :: tail) (plan.atDelimiter s cur c.toString)
      (plan.atDelimiter s (cur.extend (sep :: tail)) c.toString) := by
  have hcase := hsep.caseInsensitive
  refine extends_atDelimiter hrest (List.cons_ne_nil sep tail) ?_ fun matched hmatch => ?_
  · rw [hcase]
    exact Delimiter.firstMatch?_extend hsep (hrest ▸ List.cons_ne_nil c cs) tail _
  · rw [hcase] at hmatch
    have hmark := Delimiter.marked_of_firstMatch? hsep hmatch
    exact ⟨matched, hmark, if_neg (Boundary.marked_ne_empty hmark)⟩

theorem extends_inText_separator (hstops : plan.stops = []) (s : State) (tail : List Char) :
    Outcome.Extends (sep :: tail) (plan.inText s cur c.toString)
      (plan.inText s (cur.extend (sep :: tail)) c.toString) :=
  extends_inText hrest (Boundary.ofBlocks_append_cons hsep.blocks s.nesting cur.rest tail)
    (stop?_eq_none hstops _ _) (stop?_eq_none hstops _ _)
    fun t _ => extends_atDelimiter_separator hsep hrest t tail

/-- In front of the separator a step does not see what is behind it. -/
theorem extends_step_separator (hstops : plan.stops = []) (hopened : s.Opened plan)
    (tail : List Char) :
    Outcome.Extends (sep :: tail) (plan.step s cur) (plan.step s (cur.extend (sep :: tail))) := by
  have hquote : plan.quoteAt s (cur.extend (sep :: tail)) = plan.quoteAt s cur := by
    have hmarks := Boundary.ofQuotes_append_cons hsep.quotes (fun mark hmark =>
      (hopened.quote mark hmark).1) cur.rest tail
    simp only [quoteAt, Cursor.rest_extend, hmarks]
  have hcomment : ∀ t : State, t.openComment = s.openComment →
      plan.commentAt t (cur.extend (sep :: tail)) = plan.commentAt t cur := by
    intro t ht
    have hmarks := Boundary.ofComments_append_cons hsep.comments (fun k hk =>
      (hopened.comment k (ht ▸ hk)).1) cur.rest tail
    simp only [commentAt, Cursor.rest_extend, hmarks]
  have hkept : (s.atQuote (plan.quoteAt s cur)).openComment = s.openComment := by
    cases plan.quoteAt s cur <;> rfl
  exact extends_step hrest hquote (hcomment _ hkept)
    fun t _ => extends_inText_separator hsep hrest hstops t tail

end Separator

/-! ## The run up to the separator -/

/-- A run over a text is a run over the beginning of a text that goes on with the separator. -/
theorem leads_extend (hsep : Separates sep plan.options plan.delims) (hstops : plan.stops = [])
    {input : String} (h : plan.Reaches input s cur) (tail : List Char) :
    ∃ t, plan.Leads ({}, (Cursor.ofText input).extend (sep :: tail)) (t, cur.extend (sep :: tail)) ∧
      t.ensureToken = s.ensureToken ∧ (cur.rest ≠ [] → t = s) := by
  refine h.induct (motive := fun s cur => ∃ t,
    plan.Leads ({}, (Cursor.ofText input).extend (sep :: tail)) (t, cur.extend (sep :: tail)) ∧
      t.ensureToken = s.ensureToken ∧ (cur.rest ≠ [] → t = s)) ⟨{}, .refl, rfl, fun _ => rfl⟩ ?_
  rintro s s' cur cur' hreach ⟨t, hleads, -, hsame⟩ hstep
  obtain ⟨c, cs, hrest⟩ := exists_cons_of_step hstep
  -- There is text left, so both runs are in the same state before the step.
  obtain rfl : t = s := hsame (hrest ▸ List.cons_ne_nil c cs)
  have hextends := extends_step_separator hsep hrest hstops hreach.opened tail
  rw [hstep] at hextends
  generalize ho : plan.step t (cur.extend (sep :: tail)) = o at hextends
  cases hextends with
  | advanced hstate hsame' => exact ⟨_, hleads.snoc ho, hstate, hsame'⟩

/-- A scan comes to the separator as to the end of the text in front of it. -/
theorem leads_to_separator (hsep : Separates sep plan.options plan.delims)
    (hstops : plan.stops = []) (front back : String) :
    ∃ t, plan.Reaches (front ++ sep.toString ++ back) t ⟨front, sep :: back.toList⟩ ∧
      t.ensureToken = plan.finalState front := by
  obtain ⟨s, hreach, hfinal⟩ := exists_reaches_end hstops front
  obtain ⟨t, hleads, hstate, -⟩ := leads_extend hsep hstops hreach back.toList
  have hstart : (Cursor.ofText front).extend (sep :: back.toList) =
      Cursor.ofText (front ++ sep.toString ++ back) := by
    simp [Cursor.ofText, Cursor.extend, Char.toString]
  rw [hstart] at hleads
  exact ⟨t, hleads, hstate.trans hfinal.symm⟩

end Plan

end DelimiterScan
