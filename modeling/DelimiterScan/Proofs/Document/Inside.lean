import DelimiterScan.Proofs.Document

/-!
# Documents inside a bracket

What the default tables say of the characters of a document, and what a scan does inside a
bracket: everything goes to the current token, groups in it included (`absorbs_render`).
-/

namespace DelimiterScan

namespace Boundary

theorem marked_char {c d : Char} {cs : List Char} :
    marked (c :: cs) d.toString = true ↔ d = c := by
  rw [marked_iff]
  simp [Char.toString, List.cons_prefix_cons]

end Boundary

namespace Document

variable {separators : List Char} {inside : Option Bracket} {s : State} {cur : Cursor}
  {c : Char} {cs : List Char}

/-! ## The default tables -/

def plan (separators : List Char) : Plan := ⟨{}, delimiters separators, []⟩

theorem noQuote (h : c ∉ quoteMarks) : (plan separators).NoQuote (c :: cs) := by
  have htable : (plan separators).options.quotes = quoteMarks.map Char.toString := rfl
  rw [Plan.NoQuote, htable, List.find?_eq_none]
  intro mark hmark
  obtain ⟨d, hd, rfl⟩ := List.mem_map.mp hmark
  rw [Boundary.marked_char]
  rintro rfl
  exact h hd

theorem noComment (h : c ≠ '/') : (plan separators).NoComment (c :: cs) := by
  have htable : (plan separators).options.comments = [⟨"/*", "*/"⟩, ⟨"//", "\n"⟩] := rfl
  rw [Plan.NoComment, htable, List.find?_eq_none]
  simp [Boundary.marked_iff, List.cons_prefix_cons, h.symm]

theorem looks (hidle : s.Idle) (hmark : c ∉ quoteMarks) (hslash : c ≠ '/') :
    (plan separators).Looks s (c :: cs) :=
  ⟨hidle, noQuote hmark, noComment hslash, nofun⟩

theorem not_mem_quoteMarks (b : Bracket) :
    b.opener ∉ quoteMarks ∧ b.closer ∉ quoteMarks ∧ b.opener ≠ '/' ∧ b.closer ≠ '/' := by
  cases b <;> decide

theorem ofBlock?_opener (nesting : List Block) (b : Bracket) (cs : List Char) :
    Boundary.ofBlock? nesting (b.opener :: cs) b.block = some (.opens b.block) := by
  have hmark : Boundary.marked (b.opener :: cs) b.block.start := Boundary.marked_char.mpr rfl
  exact if_pos hmark

theorem ofBlock?_closer (outer : List Block) (b : Bracket) (cs : List Char) :
    Boundary.ofBlock? (b.block :: outer) (b.closer :: cs) b.block = some (.closes b.block) := by
  have hstart : ¬ Boundary.marked (b.closer :: cs) b.block.start := by
    rw [Bracket.block, Boundary.marked_char]
    cases b <;> decide
  have hfinish : Boundary.marked (b.closer :: cs) b.block.finish := Boundary.marked_char.mpr rfl
  rw [Boundary.ofBlock?, if_neg hstart]
  exact if_pos ⟨rfl, hfinish⟩

/-- A bracket has nothing to do with a character that does not open it, unless that closes the
innermost block. -/
theorem ofBlock?_none {nesting : List Block} {b : Bracket} (hopener : c ≠ b.opener)
    (hcloser : ∀ k ∈ nesting.head?, k.finish = b.closer.toString → c ≠ b.closer) :
    Boundary.ofBlock? nesting (c :: cs) b.block = none := by
  have hstart : ¬ Boundary.marked (c :: cs) b.block.start := by
    rw [Bracket.block, Boundary.marked_char]
    exact hopener.symm
  cases nesting with
  | nil => exact if_neg hstart
  | cons k outer =>
    refine (if_neg hstart).trans (if_neg ?_)
    rintro ⟨hsame, hfinish⟩
    exact hcloser k rfl hsame.symm (Boundary.marked_char.mp hfinish).symm

theorem blockAt_eq (hrest : cur.rest = c :: cs) :
    (plan separators).blockAt s cur =
      (([Bracket.round, .square, .curly].map Bracket.block).findSome?
        (Boundary.ofBlock? s.nesting (c :: cs))).getD .none := by
  rw [Plan.blockAt, hrest]
  rfl

theorem blockAt_opener (b : Bracket) (hrest : cur.rest = b.opener :: cs) :
    (plan separators).blockAt s cur = .opens b.block := by
  have hother : ∀ b' : Bracket, b' ≠ b →
      Boundary.ofBlock? s.nesting (b.opener :: cs) b'.block = none := by
    intro b' hne
    refine ofBlock?_none ?_ fun _ _ _ => ?_ <;> revert hne <;> cases b <;> cases b' <;> decide
  have hself := ofBlock?_opener s.nesting b cs
  rw [blockAt_eq hrest]
  cases b <;> simp [hself, hother]

theorem blockAt_closer {outer : List Block} (b : Bracket) (hrest : cur.rest = b.closer :: cs)
    (hnesting : s.nesting = b.block :: outer) :
    (plan separators).blockAt s cur = .closes b.block := by
  have hother : ∀ b' : Bracket, b' ≠ b →
      Boundary.ofBlock? s.nesting (b.closer :: cs) b'.block = none := by
    intro b' hne
    refine ofBlock?_none ?_ fun _ _ _ => ?_ <;> revert hne <;> cases b <;> cases b' <;> decide
  have hself := ofBlock?_closer outer b cs
  rw [← hnesting] at hself
  rw [blockAt_eq hrest]
  cases b <;> simp [hself, hother]

/-- A character that opens nothing and does not close the innermost block leaves the blocks as
they are. -/
theorem blockAt_none (hrest : cur.rest = c :: cs) (hopener : ∀ b : Bracket, c ≠ b.opener)
    (hcloser : ∀ b : Bracket, s.nesting.head? = some b.block → c ≠ b.closer)
    (hbrackets : ∀ k ∈ s.nesting.head?, ∃ b : Bracket, k = b.block) :
    (plan separators).blockAt s cur = .none := by
  have hall : ∀ b : Bracket, Boundary.ofBlock? s.nesting (c :: cs) b.block = none := by
    intro b
    refine ofBlock?_none (hopener b) ?_
    intro k hk hfinish
    obtain ⟨b', rfl⟩ := hbrackets k hk
    have hsame : b' = b := by
      revert hfinish
      cases b <;> cases b' <;> decide
    exact hcloser b (hsame ▸ hk)
  rw [blockAt_eq hrest]
  simp [hall]

/-! ## Steps inside a bracket -/

/-- Notes that a number of blocks were open at a time. -/
def deepen (s : State) (n : Nat) : State := { s with maxDepth := max s.maxDepth n }

/-- Inside a block everything but the boundaries of blocks is text. -/
theorem step_nested (hne : separators ≠ []) (hidle : s.Idle) (hmark : c ∉ quoteMarks)
    (hslash : c ≠ '/') {b : Boundary Block} (hrest : cur.rest = c :: cs)
    (hblock : (plan separators).blockAt s cur = b)
    (hnested : (s.atBlock b).nesting ≠ [] ∨ b.isClosing) :
    (plan separators).step s cur = .plain (s.atBlock b) cur (b.marker?.getD c.toString) := by
  subst hblock
  have hdelims : (plan separators).delims ≠ [] := by simpa [plan, delimiters] using hne
  have hstop : ∀ s, (plan separators).stop? s cur = none := by
    simp [Plan.stop?, plan, Delimiter.firstMatch?]
  rw [Plan.step_looks hrest (hrest ▸ looks hidle hmark hslash),
    Plan.inText_nested (hstop _) hdelims hnested]

/-! ## Regions of the default tables -/

theorem find_quote {mark : Char} (h : mark ∈ quoteMarks) :
    (plan separators).options.quotes.find? (Boundary.marked (mark :: cs)) =
      some mark.toString := by
  have htable : (plan separators).options.quotes = quoteMarks.map Char.toString := rfl
  rw [htable]
  simp only [quoteMarks, List.mem_cons, List.not_mem_nil, or_false] at h
  rcases h with rfl | rfl | rfl <;>
    simp only [quoteMarks, List.map_cons, List.find?_cons] <;> rfl

theorem find_comment {k : Block} (h : k ∈ Block.defaultComments) (ahead : List Char) :
    (plan separators).options.comments.find?
      (Boundary.marked (k.start.toList ++ ahead) ·.start) = some k := by
  have htable : (plan separators).options.comments = [⟨"/*", "*/"⟩, ⟨"//", "\n"⟩] := rfl
  rw [htable]
  simp only [Block.defaultComments, List.mem_cons, List.not_mem_nil, or_false] at h
  rcases h with rfl | rfl <;>
    simp [Boundary.marked, Text.startsWith, List.isPrefixOf]

theorem firstAtEnd_comment {k : Block} {body : List Char} (hk : k ∈ Block.defaultComments)
    (hbody : ¬ k.finish.toList <:+: body) : Text.FirstAtEnd k.finish.toList body := by
  simp only [Block.defaultComments, List.mem_cons, List.not_mem_nil, or_false] at hk
  rcases hk with rfl | rfl
  · rintro before ahead rfl hne hbegins
    -- A marker that begins in the body ends there, or its second character is a `*`.
    match ahead with
    | [c] => simp [List.cons_prefix_cons] at hbegins
    | c :: d :: ahead =>
      have hmarks : '*' = c ∧ '/' = d := by simpa [List.cons_prefix_cons] using hbegins
      obtain ⟨rfl, rfl⟩ := hmarks
      exact hbody ⟨before, ahead, by simp⟩
  · have hfirst : Text.FirstAtEnd ['\n'] body := by
      refine .singleton fun hmem => hbody ?_
      obtain ⟨before, ahead, rfl⟩ := List.append_of_mem hmem
      exact ⟨before, ahead, by simp⟩
    simpa using hfirst

theorem leads_defaultQuotation {mark : Char} {body : List Char} (hidle : s.Idle)
    (hmark : mark ∈ quoteMarks) (hbody : mark ∉ body) (before : String) (tail : List Char) :
    (plan separators).Leads (s, ⟨before, mark :: (body ++ mark :: tail)⟩)
      (s.addText (String.ofList (mark :: (body ++ [mark]))),
        ⟨before ++ String.ofList (mark :: (body ++ [mark])), tail⟩) := by
  have hslash : mark ≠ '/' := by
    rintro rfl
    revert hmark
    decide
  have hfirst : Text.FirstAtEnd mark.toString.toList body := by
    simpa using Text.FirstAtEnd.singleton hbody
  have hleads : (plan separators).Leads (s, ⟨before, _ ++ (_ ++ (_ ++ tail))⟩) _ :=
    Plan.leads_quotation hidle (by simp) (by simpa using find_quote hmark) hfirst
      (by simpa using noComment hslash) before
  simpa [String.ofList_cons, String.ofList_append, String.append_assoc,
    -String.append_singleton] using hleads

section Comment

variable {k : Block} {body : List Char}

theorem defaultComment (hk : k ∈ Block.defaultComments) :
    k.start ≠ "" ∧ k.finish ≠ "" ∧ ∃ ahead, k.start.toList = '/' :: ahead := by
  simp only [Block.defaultComments, List.mem_cons, List.not_mem_nil, or_false] at hk
  rcases hk with rfl | rfl <;> simp

theorem noQuote_comment (hk : k ∈ Block.defaultComments) (ahead : List Char) :
    (plan separators).NoQuote (k.start.toList ++ ahead) := by
  obtain ⟨-, -, more, hstart⟩ := defaultComment hk
  rw [hstart]
  exact noQuote (by decide)

theorem leads_defaultComment (hidle : s.Idle) (hnesting : s.nesting = [])
    (hk : k ∈ Block.defaultComments) (hbody : ¬ k.finish.toList <:+: body) (before : String)
    (tail : List Char) :
    (plan separators).Leads (s, ⟨before, k.start.toList ++ (body ++ (k.finish.toList ++ tail))⟩)
      (s.withComment (String.ofList body),
        ⟨before ++ String.ofList (k.start.toList ++ (body ++ k.finish.toList)), tail⟩) := by
  obtain ⟨hstart, hfinish, -⟩ := defaultComment hk
  have hleads : (plan separators).Leads (s, ⟨before, _ ++ (_ ++ (_ ++ tail))⟩) _ :=
    Plan.leads_comment hidle hstart hfinish (noQuote_comment hk _) (find_comment hk _)
      (firstAtEnd_comment hk hbody) hnesting before
  simpa [String.ofList_append, String.append_assoc] using hleads

theorem leads_defaultNestedComment (hidle : s.Idle) (hnesting : s.nesting ≠ [])
    (hk : k ∈ Block.defaultComments) (hbody : ¬ k.finish.toList <:+: body) (before : String)
    (tail : List Char) :
    (plan separators).Leads (s, ⟨before, k.start.toList ++ (body ++ (k.finish.toList ++ tail))⟩)
      (s.addText (String.ofList (k.start.toList ++ (body ++ k.finish.toList))),
        ⟨before ++ String.ofList (k.start.toList ++ (body ++ k.finish.toList)), tail⟩) := by
  obtain ⟨hstart, hfinish, -⟩ := defaultComment hk
  have hleads : (plan separators).Leads (s, ⟨before, _ ++ (_ ++ (_ ++ tail))⟩) _ :=
    Plan.leads_nested_comment hidle hstart hfinish (noQuote_comment hk _) (find_comment hk _)
      (firstAtEnd_comment hk hbody) hnesting before
  simpa [String.ofList_append, String.append_assoc] using hleads

end Comment

/-! ## Inside a bracket -/

/-- Inside the bracket `b`, the scan passes `text` into the current token and meets `depth` more
levels of groups on the way. -/
def Absorbs (separators : List Char) (b : Bracket) (text : List Char) (depth : Nat) : Prop :=
  ∀ (s : State) (outer : List Block) (before kept : String) (tail : List Char), s.Idle →
    s.nesting = b.block :: outer → s.nesting.length ≤ s.maxDepth →
    (plan separators).Leads (s.addText kept, ⟨before, text ++ tail⟩)
      ((deepen s (s.nesting.length + depth)).addText (kept ++ String.ofList text),
        ⟨before ++ String.ofList text, tail⟩)

theorem deepen_of_le {n : Nat} (h : n ≤ s.maxDepth) : deepen s n = s := by
  rw [deepen, Nat.max_eq_left h]

namespace Absorbs

variable {b : Bracket}

theorem nil : Absorbs separators b [] 0 := by
  intro s outer before kept tail hidle hnesting hdepth
  rw [Nat.add_zero, deepen_of_le hdepth]
  simpa using Relation.ReflTransGen.refl

theorem append {xs ys : List Char} {m n : Nat} (hxs : Absorbs separators b xs m)
    (hys : Absorbs separators b ys n) : Absorbs separators b (xs ++ ys) (max m n) := by
  intro s outer before kept tail hidle hnesting hdepth
  have hfirst := hxs s outer before kept (ys ++ tail) hidle hnesting hdepth
  have hsecond := hys (deepen s (s.nesting.length + m)) outer (before ++ String.ofList xs)
    (kept ++ String.ofList xs) tail ⟨hidle.openQuote, hidle.openComment⟩ hnesting
    (Nat.le_trans hdepth (Nat.le_max_left _ _))
  have hdeepen : deepen (deepen s (s.nesting.length + m)) (s.nesting.length + n) =
      deepen s (s.nesting.length + max m n) := by
    simp only [deepen, Nat.max_assoc, Nat.add_max_add_left]
  rw [show (deepen s (s.nesting.length + m)).nesting = s.nesting from rfl, hdeepen] at hsecond
  simpa [String.ofList_append, String.append_assoc] using hfirst.trans hsecond

/-- What goes to the token without a change of the blocks is absorbed. -/
theorem of_leads {text : List Char}
    (h : ∀ (s : State) (outer : List Block) (before : String) (tail : List Char), s.Idle →
      s.nesting = b.block :: outer →
      (plan separators).Leads (s, ⟨before, text ++ tail⟩)
        (s.addText (String.ofList text), ⟨before ++ String.ofList text, tail⟩)) :
    Absorbs separators b text 0 := by
  intro s outer before kept tail hidle hnesting hdepth
  have hleads := h (s.addText kept) outer before tail ⟨hidle.openQuote, hidle.openComment⟩ hnesting
  rw [State.addText_addText] at hleads
  rwa [Nat.add_zero, deepen_of_le hdepth]

theorem plain (hne : separators ≠ []) (hc : PlainChar separators (some b) c) :
    Absorbs separators b [c] 0 := by
  refine of_leads fun s outer before tail hidle hnesting => .single ?_
  have hblock : (plan separators).blockAt s ⟨before, c :: tail⟩ = .none := by
    refine blockAt_none rfl hc.not_opener ?_ ?_
    · intro b' hb'
      rw [hnesting, List.head?_cons, Option.some.injEq] at hb'
      exact Bracket.block_injective hb' ▸ hc.not_closer b rfl
    · simp [hnesting]
  have hstep := step_nested hne hidle hc.not_mark hc.not_slash rfl hblock
    (.inl (by simp [State.atBlock, hnesting]))
  simpa [hstep, Outcome.plain, State.atBlock, Boundary.marker?, ← String.singleton_eq_ofList]
    using Cursor.advance_char before c tail

theorem quotation {mark : Char} {body : List Char} (hmark : mark ∈ quoteMarks)
    (hbody : mark ∉ body) : Absorbs separators b (mark :: (body ++ [mark])) 0 := by
  refine of_leads fun s outer before tail hidle _ => ?_
  simpa using leads_defaultQuotation hidle hmark hbody before tail

theorem comment {k : Block} {body : List Char} (hk : k ∈ Block.defaultComments)
    (hbody : ¬ k.finish.toList <:+: body) :
    Absorbs separators b (k.start.toList ++ (body ++ k.finish.toList)) 0 := by
  refine of_leads fun s outer before tail hidle hnesting => ?_
  simpa using leads_defaultNestedComment hidle (by simp [hnesting]) hk hbody before tail

end Absorbs

theorem step_opener (hne : separators ≠ []) (hidle : s.Idle) (b : Bracket) (before : String)
    (ahead : List Char) :
    (plan separators).step s ⟨before, b.opener :: ahead⟩ =
      .advanced ((s.atBlock (.opens b.block)).addText b.opener.toString)
        ⟨before ++ b.opener.toString, ahead⟩ := by
  obtain ⟨hmark, -, hslash, -⟩ := not_mem_quoteMarks b
  rw [step_nested hne hidle hmark hslash rfl (blockAt_opener b rfl) (.inl nofun), Outcome.plain,
    show (Boundary.opens b.block).marker?.getD b.opener.toString = b.opener.toString from rfl,
    Cursor.advance_char]

theorem step_closer {b : Bracket} {outer : List Block} (hne : separators ≠ []) (hidle : s.Idle)
    (hnesting : s.nesting = b.block :: outer) (before kept : String) (tail : List Char) :
    (plan separators).step (s.addText kept) ⟨before, b.closer :: tail⟩ =
      .advanced (({ s with nesting := outer } : State).addText (kept ++ b.closer.toString))
        ⟨before ++ b.closer.toString, tail⟩ := by
  obtain ⟨-, hmark, -, hslash⟩ := not_mem_quoteMarks b
  have hclosed : (s.addText kept).atBlock (.closes b.block) =
      ({ s with nesting := outer } : State).addText kept := by
    simp only [State.atBlock, State.addText, hnesting, List.tail_cons]
  rw [step_nested (s := s.addText kept) hne ⟨hidle.openQuote, hidle.openComment⟩ hmark hslash rfl
    (blockAt_closer b rfl hnesting) (.inr rfl), hclosed, Outcome.plain, State.addText_addText,
    show (Boundary.closes b.block).marker?.getD b.closer.toString = b.closer.toString from rfl,
    Cursor.advance_char]

/-- A group goes to the token as a whole, where its inner text is absorbed. -/
theorem leads_group {b : Bracket} {text : List Char} {depth : Nat} (hne : separators ≠ [])
    (htext : Absorbs separators b text depth) (hidle : s.Idle) (before : String)
    (tail : List Char) :
    (plan separators).Leads (s, ⟨before, b.opener :: (text ++ b.closer :: tail)⟩)
      ((deepen s (s.nesting.length + (depth + 1))).addText
          (String.ofList (b.opener :: (text ++ [b.closer]))),
        ⟨before ++ String.ofList (b.opener :: (text ++ [b.closer])), tail⟩) := by
  have hidle' : (s.atBlock (.opens b.block)).Idle := ⟨hidle.openQuote, hidle.openComment⟩
  -- The opener is what the token has kept when the inner text begins.
  have hopen := step_opener hne hidle b before (text ++ b.closer :: tail)
  have hinner := htext (s.atBlock (.opens b.block)) s.nesting (before ++ b.opener.toString)
    b.opener.toString (b.closer :: tail) hidle' rfl (Nat.le_max_right _ _)
  have hclose := step_closer (s := deepen (s.atBlock (.opens b.block))
    ((s.atBlock (.opens b.block)).nesting.length + depth)) hne
    ⟨hidle.openQuote, hidle.openComment⟩ rfl
    (before ++ b.opener.toString ++ String.ofList text) (b.opener.toString ++ String.ofList text)
    tail
  have hdepth : ({ deepen (s.atBlock (.opens b.block))
      ((s.atBlock (.opens b.block)).nesting.length + depth) with nesting := s.nesting } : State) =
      deepen s (s.nesting.length + (depth + 1)) := by
    simp only [deepen, State.atBlock, List.length_cons, State.mk.injEq, true_and, and_true]
    omega
  rw [hdepth] at hclose
  have hleads := Plan.Leads.cons hopen (hinner.snoc hclose)
  simpa [String.ofList_cons, String.ofList_append, String.append_assoc,
    -String.append_singleton] using hleads

/-- Inside a bracket a document is absorbed. -/
theorem absorbs_render {b : Bracket} (hne : separators ≠ []) (d : Document separators inside)
    (h : inside = some b) : Absorbs separators b d.render d.depth := by
  induction d generalizing b with
  | nil => exact .nil
  | plain c hc rest ih =>
    subst h
    simpa [render, depth] using (Absorbs.plain hne hc).append (ih rfl)
  | separator d hd rest ih => cases h
  | quotation mark hmark body hbody rest ih =>
    simpa [render, depth] using (Absorbs.quotation hmark hbody).append (ih h)
  | comment k hk body hbody rest ih =>
    simpa [render, depth] using (Absorbs.comment hk hbody).append (ih h)
  | group b' inner rest ihInner ih =>
    have hgroup : Absorbs separators b (b'.opener :: (inner.render ++ [b'.closer]))
        (inner.depth + 1) := by
      intro s outer before kept tail hidle hnesting hdepth
      have hleads := leads_group (s := s.addText kept) hne (ihInner rfl)
        ⟨hidle.openQuote, hidle.openComment⟩ before tail
      rw [show (s.addText kept).nesting = s.nesting from rfl] at hleads
      rw [show deepen (s.addText kept) (s.nesting.length + (inner.depth + 1)) =
        (deepen s (s.nesting.length + (inner.depth + 1))).addText kept from rfl,
        State.addText_addText] at hleads
      simpa using hleads
    simpa [render, depth] using hgroup.append (ih h)

end Document

end DelimiterScan
