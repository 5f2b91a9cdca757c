import DelimiterScan.Proofs.Nesting
import DelimiterScan.Proofs.Resolve
import DelimiterScan.Proofs.Widths

/-!
# Blocks that are not closed

Where all markers are characters and nothing but blocks is looked for, the blocks that a scan keeps
open are those of a stack over the characters: a first marker puts its block on the stack, and the
last marker of the uppermost block takes it off again (`Block.unclosed`). So a scan fails if there
are blocks on this stack in the end, and its error names them, the outermost first
(`scan_bracketed`).
-/

namespace DelimiterScan

/-! ## The stack over the characters -/

namespace Block

/-- What a character does to the open blocks, the innermost first. The first block that it begins is
opened; otherwise the innermost one is closed if it ends with the character. -/
def nest (blocks nesting : List Block) (c : Char) : List Block :=
  match blocks.find? (·.start = c.toString) with
  | some k => k :: nesting
  | none =>
    match nesting with
    | [] => []
    | innermost :: outer =>
      if innermost.finish = c.toString then outer else innermost :: outer

def unclosed (blocks : List Block) (cs : List Char) : List Block := cs.foldl (nest blocks) []

/-- How many blocks are open behind the beginnings of a text. -/
def depthsIn (blocks : List Block) (cs : List Char) : Set Nat :=
  {n | ∃ p, p <+: cs ∧ (unclosed blocks p).length = n}

variable {blocks nesting outer : List Block} {k : Block} {c : Char} {cs : List Char} {n : Nat}

theorem nest_of_find? (h : blocks.find? (·.start = c.toString) = some k) :
    nest blocks nesting c = k :: nesting := by
  simp only [nest, h]

theorem nest_of_finish (h : blocks.find? (·.start = c.toString) = none)
    (hk : k.finish = c.toString) : nest blocks (k :: outer) c = outer := by
  simp only [nest, h, if_pos hk]

theorem nest_of_text (h : blocks.find? (·.start = c.toString) = none)
    (hk : ∀ k ∈ nesting.head?, k.finish ≠ c.toString) : nest blocks nesting c = nesting := by
  cases nesting with
  | nil => simp only [nest, h]
  | cons k outer => simp only [nest, h, if_neg (hk k rfl)]

theorem unclosed_concat (blocks : List Block) (cs : List Char) (c : Char) :
    unclosed blocks (cs ++ [c]) = nest blocks (unclosed blocks cs) c := by
  rw [unclosed, List.foldl_append]
  rfl

/-- One more character adds the blocks behind it to those that count. -/
theorem isGreatest_depthsIn_concat (h : IsGreatest (depthsIn blocks cs) n) (c : Char) :
    IsGreatest (depthsIn blocks (cs ++ [c])) (max n (unclosed blocks (cs ++ [c])).length) := by
  obtain ⟨⟨p, hp, hn⟩, hbound⟩ := h
  constructor
  · rcases max_choice n (unclosed blocks (cs ++ [c])).length with hmax | hmax
    · exact ⟨p, hp.trans (List.prefix_append cs [c]), hn.trans hmax.symm⟩
    · exact ⟨cs ++ [c], List.prefix_rfl, hmax.symm⟩
  · rintro m ⟨p, hp, rfl⟩
    rcases List.prefix_concat_iff.mp hp with rfl | hp
    · exact le_max_right _ _
    · exact (hbound ⟨p, hp, rfl⟩).trans (le_max_left _ _)

end Block

/-- Markers are characters that do not both begin and end blocks, nothing but blocks is looked for
besides delimiters, and these are literals without the characters that begin blocks. -/
structure Bracketed (options : Options) (delims : List Delimiter) : Prop where
  start : ∀ k ∈ options.blocks, ∃ c : Char, k.start = c.toString
  finish : ∀ k ∈ options.blocks, ∃ c : Char, k.finish = c.toString
  apart : ∀ k ∈ options.blocks, ∀ k' ∈ options.blocks, k.start ≠ k'.finish
  quotes : options.quotes = []
  comments : options.comments = []
  stops : options.stops = []
  limit : options.limit = none
  useRegex : options.useRegex = none
  caseInsensitive : options.caseInsensitive = false
  literals : ∀ d ∈ delims, ∃ text, d = .literal text ∧
    ∀ c ∈ text.toList, ∀ k ∈ options.blocks, k.start ≠ c.toString

variable {options : Options} {delims : List Delimiter} {plan : Plan} {input : String}
  {s t : State} {cur cur' : Cursor} {blocks nesting : List Block} {c : Char} {cs : List Char}

namespace Boundary

theorem marked_char_iff {marker : String} (h : ∃ d : Char, marker = d.toString) :
    marked (c :: cs) marker = true ↔ marker = c.toString := by
  obtain ⟨d, rfl⟩ := h
  constructor
  · intro hmark
    have hbegins := (marked_iff.mp hmark).2
    obtain rfl : d = c := by simpa [Char.toString] using hbegins
    rfl
  · rintro heq
    rw [heq]
    exact marked_toString rfl

theorem ofBlock?_of_ofBlocks {rest : List Char} {k : Block}
    (h : ofBlocks blocks nesting rest = .none) (hk : k ∈ blocks) :
    ofBlock? nesting rest k = Option.none := by
  unfold ofBlocks at h
  cases hfind : blocks.findSome? (ofBlock? nesting rest) with
  | none => exact List.findSome?_eq_none_iff.mp hfind k hk
  | some b =>
    obtain ⟨k', -, hb⟩ := List.exists_of_findSome?_eq_some hfind
    obtain ⟨marker, hmarker, -⟩ := exists_marker_of_ofBlock? hb
    rw [hfind, Option.getD_some] at h
    rw [h] at hmarker
    cases hmarker

variable (hstart : ∀ k ∈ blocks, ∃ d : Char, k.start = d.toString)
  (hfinish : ∀ k ∈ blocks, ∃ d : Char, k.finish = d.toString)
  (hapart : ∀ k ∈ blocks, ∀ k' ∈ blocks, k.start ≠ k'.finish)

include hstart hfinish hapart

/-- A character that begins blocks opens the first of them. -/
theorem ofBlocks_of_find? {k : Block} (hfind : blocks.find? (·.start = c.toString) = some k) :
    ofBlocks blocks nesting (c :: cs) = .opens k := by
  obtain ⟨hk, earlier, later, rfl, hearlier⟩ := List.find?_eq_some_iff_append.mp hfind
  have hkc : k.start = c.toString := of_decide_eq_true hk
  have hopens : ofBlock? nesting (c :: cs) k = some (.opens k) :=
    if_pos ((marked_char_iff ⟨c, hkc⟩).mpr hkc)
  have hskipped : ∀ k' ∈ earlier, ofBlock? nesting (c :: cs) k' = Option.none := by
    intro k' hk'
    have hmem : k' ∈ earlier ++ k :: later := List.mem_append_left _ hk'
    have hnoStart : ¬ marked (c :: cs) k'.start = true := by
      rw [marked_char_iff (hstart k' hmem)]
      simpa using hearlier k' hk'
    have hnoFinish : ¬ marked (c :: cs) k'.finish = true := by
      rw [marked_char_iff (hfinish k' hmem), ← hkc]
      exact (hapart k (List.mem_append_right _ List.mem_cons_self) k' hmem).symm
    unfold ofBlock?
    rw [if_neg hnoStart]
    split
    · rfl
    · exact if_neg fun h => hnoFinish h.2
  rw [ofBlocks, List.findSome?_eq_some_iff.mpr ⟨earlier, k, later, rfl, hopens, hskipped⟩]
  rfl

/-- What a character does to blocks is what it does to the stack. -/
theorem ofBlocks_cases (hmem : ∀ k ∈ nesting, k ∈ blocks) (c : Char) (cs : List Char) :
    (∃ k, ofBlocks blocks nesting (c :: cs) = .opens k ∧ k.start = c.toString ∧
      Block.nest blocks nesting c = k :: nesting) ∨
    (∃ k outer, ofBlocks blocks nesting (c :: cs) = .closes k ∧ k.finish = c.toString ∧
      nesting = k :: outer ∧ Block.nest blocks nesting c = outer) ∨
    (ofBlocks blocks nesting (c :: cs) = .none ∧ Block.nest blocks nesting c = nesting) := by
  cases hfind : blocks.find? (·.start = c.toString) with
  | some k =>
    have hk : k.start = c.toString := by simpa using List.find?_some hfind
    exact .inl ⟨k, ofBlocks_of_find? hstart hfinish hapart hfind, hk, Block.nest_of_find? hfind⟩
  | none =>
    right
    have hnoStart := List.find?_eq_none.mp hfind
    cases hb : ofBlocks blocks nesting (c :: cs) with
    | opens k =>
      obtain ⟨hk, hmark⟩ := opens_of_ofBlocks hb
      rw [marked_char_iff (hstart k hk)] at hmark
      exact absurd (decide_eq_true hmark) (hnoStart k hk)
    | closes k =>
      obtain ⟨⟨outer, rfl⟩, hmark⟩ := closes_of_ofBlocks hb
      have hk := hmem k List.mem_cons_self
      rw [marked_char_iff (hfinish k hk)] at hmark
      exact .inl ⟨k, outer, rfl, hmark, rfl, Block.nest_of_finish hfind hmark⟩
    | none =>
      refine .inr ⟨rfl, Block.nest_of_text hfind fun k hhead hkc => ?_⟩
      -- The innermost block is in the table, and there its last marker would close it.
      obtain ⟨outer, rfl⟩ := List.head?_eq_some_iff.mp hhead
      have hk := hmem k List.mem_cons_self
      have hmark : marked (c :: cs) k.finish = true := (marked_char_iff (hfinish k hk)).mpr hkc
      have hnone := ofBlock?_of_ofBlocks hb hk
      unfold ofBlock? at hnone
      split at hnone
      · cases hnone
      · dsimp only at hnone
        rw [if_pos ⟨rfl, hmark⟩] at hnone
        cases hnone

end Boundary

/-! ## Scans keep the stack -/

/-- The open blocks are those of the stack behind `cs`, and the greatest depth is the largest size
that it had. -/
structure State.Counts (blocks : List Block) (s : State) (cs : List Char) : Prop where
  nesting : s.nesting = Block.unclosed blocks cs
  maxDepth : IsGreatest (Block.depthsIn blocks cs) s.maxDepth

namespace State.Counts

theorem start (blocks : List Block) : Counts blocks {} [] := by
  refine ⟨rfl, ⟨[], List.prefix_rfl, rfl⟩, ?_⟩
  rintro n ⟨p, hp, rfl⟩
  rw [List.prefix_nil.mp hp]
  exact le_rfl

theorem concat (h : s.Counts blocks cs) (hnesting : t.nesting = Block.nest blocks s.nesting c)
    (hdepth : t.maxDepth = max s.maxDepth t.nesting.length) : t.Counts blocks (cs ++ [c]) := by
  have hstack : t.nesting = Block.unclosed blocks (cs ++ [c]) := by
    rw [Block.unclosed_concat, hnesting, h.nesting]
  refine ⟨hstack, ?_⟩
  rw [hdepth, hstack]
  exact Block.isGreatest_depthsIn_concat h.maxDepth c

/-- Outside of blocks, characters that begin none leave the stack empty. -/
theorem append_flat {p : List Char} (h : s.Counts blocks cs) (hflat : s.nesting = [])
    (hp : ∀ c ∈ p, ∀ k ∈ blocks, k.start ≠ c.toString) : s.Counts blocks (cs ++ p) := by
  induction p generalizing cs with
  | nil => rwa [List.append_nil]
  | cons c p ih =>
    have hfind : blocks.find? (·.start = c.toString) = none := by
      rw [List.find?_eq_none]
      intro k hk
      simpa using hp c List.mem_cons_self k hk
    have hnext : s.Counts blocks (cs ++ [c]) := by
      refine h.concat ?_ (by simp [hflat])
      rw [hflat]
      exact (Block.nest_of_text hfind (by simp)).symm
    rw [List.append_cons]
    exact ih hnext fun c' hc' => hp c' (List.mem_cons_of_mem c hc')

theorem congr (h : s.Counts blocks cs) (hopen : s.SameOpen t) : t.Counts blocks cs := by
  refine ⟨hopen.nesting.trans h.nesting, ?_⟩
  rw [hopen.maxDepth]
  exact h.maxDepth

end State.Counts

theorem Cursor.toList_before_advance {text : String} (h : Boundary.marked cur.rest text = true) :
    (cur.advance text.utf8ByteSize).before.toList = cur.before.toList ++ text.toList := by
  obtain ⟨hne, hbegins⟩ := Boundary.marked_iff.mp h
  rw [Cursor.advance_before, Cursor.passed_of_begins hne hbegins, String.toList_append]

namespace Plan

theorem cursor_of_atBlockEdge {b : Boundary Block} {text : String}
    (hstep : atBlockEdge s cur b text = .advanced t cur') :
    cur' = cur.advance (b.marker?.getD text).utf8ByteSize := by
  cases b <;> cases hstep <;> rfl

variable (h : Bracketed plan.options plan.delims) (hopened : s.Opened plan)

include h hopened

/-- There is nothing else to look for. -/
theorem looks_of_bracketed (rest : List Char) : plan.Looks s rest where
  openQuote := by
    refine Option.eq_none_iff_forall_not_mem.mpr fun mark hmark => ?_
    have hmem := (hopened.quote mark hmark).1
    rw [h.quotes] at hmem
    exact List.not_mem_nil hmem
  openComment := by
    refine Option.eq_none_iff_forall_not_mem.mpr fun k hk => ?_
    have hmem := (hopened.comment k hk).1
    rw [h.comments] at hmem
    exact List.not_mem_nil hmem
  noQuote := by rw [NoQuote, h.quotes]; rfl
  noComment := by rw [NoComment, h.comments]; rfl
  limit := by simp [h.limit]

/-- What a step does to blocks is what its character does to the stack, and it passes this character
with a marker. -/
theorem atBlock_bracketed (hrest : cur.rest = c :: cs) (hdepth : s.nesting.length ≤ s.maxDepth) :
    (s.atBlock (plan.blockAt s cur)).nesting = Block.nest plan.options.blocks s.nesting c ∧
      (s.atBlock (plan.blockAt s cur)).maxDepth =
        max s.maxDepth (s.atBlock (plan.blockAt s cur)).nesting.length ∧
      (plan.blockAt s cur).marker?.getD c.toString = c.toString := by
  have hcases := Boundary.ofBlocks_cases h.start h.finish h.apart
    (fun k hk => (hopened.nesting k hk).1) c cs
  rw [← hrest] at hcases
  rcases hcases with ⟨k, hb, hk, hnest⟩ | ⟨k, outer, hb, hk, hs, hnest⟩ | ⟨hb, hnest⟩
  · rw [blockAt, hb, hnest]
    exact ⟨rfl, rfl, hk⟩
  · rw [blockAt, hb, hnest, State.atBlock, hs]
    rw [hs, List.length_cons] at hdepth
    exact ⟨rfl, (max_eq_left (Nat.le_of_succ_le hdepth)).symm, hk⟩
  · rw [blockAt, hb, hnest]
    exact ⟨rfl, (max_eq_left hdepth).symm, rfl⟩

/-- Where the character is passed, the stack follows. -/
theorem counts_of_atBlock (hrest : cur.rest = c :: cs) (hdepth : s.nesting.length ≤ s.maxDepth)
    (hcounts : s.Counts plan.options.blocks cur.before.toList)
    (hopen : (s.atBlock (plan.blockAt s cur)).SameOpen t) :
    t.Counts plan.options.blocks (cur.advance c.toString.utf8ByteSize).before.toList := by
  obtain ⟨hnesting, hmax, -⟩ := atBlock_bracketed h hopened hrest hdepth
  have hchar : c.toString.toList = [c] := String.toList_singleton c
  rw [Cursor.toList_before_advance (Boundary.marked_toString hrest), hchar]
  exact (hcounts.concat hnesting hmax).congr hopen

omit hopened

/-- A delimiter that matches stands at the cursor, and no character of it begins a block. -/
theorem marked_of_firstMatch?_bracketed {buffer : TokenBuffer} {matched : String}
    (hne : matched ≠ "")
    (hmatch : Delimiter.firstMatch? plan.delims cur buffer plan.options.caseInsensitive =
      some matched) :
    Boundary.marked cur.rest matched = true ∧
      ∀ c ∈ matched.toList, ∀ k ∈ plan.options.blocks, k.start ≠ c.toString := by
  have hliterals : ∀ d ∈ plan.delims, ∃ text, d = .literal text := fun d hd =>
    (h.literals d hd).imp fun _ htext => htext.1
  obtain ⟨hmem, hstands⟩ := Delimiter.literal_of_firstMatch? hliterals hmatch
  rw [h.caseInsensitive, Delimiter.literalStandsAt_iff] at hstands
  obtain ⟨text, htext, hchars⟩ := h.literals _ hmem
  cases htext
  exact ⟨Boundary.marked_iff.mpr ⟨hne, hstands⟩, hchars⟩

/-- Outside of blocks a match passes one character, or the characters of a delimiter. -/
theorem counts_of_match {buffer : TokenBuffer} {matched : String}
    (hcounts : s.Counts plan.options.blocks cur.before.toList)
    (hchar : s.Counts plan.options.blocks (cur.advance c.toString.utf8ByteSize).before.toList)
    (hflat : s.nesting = [])
    (hmatch : Delimiter.firstMatch? plan.delims cur buffer plan.options.caseInsensitive =
      some matched) :
    s.Counts plan.options.blocks (cur.advance (matchWidth matched c.toString)).before.toList := by
  by_cases hempty : matched = ""
  · rwa [matchWidth, if_pos hempty]
  · obtain ⟨hmark, hchars⟩ := marked_of_firstMatch?_bracketed h hempty hmatch
    rw [matchWidth, if_neg hempty, Cursor.toList_before_advance hmark]
    exact hcounts.append_flat hflat hchars

theorem counts_step (hstops : plan.stops = []) (hreach : plan.Reaches input s cur)
    (hcounts : s.Counts plan.options.blocks cur.before.toList)
    (hstep : plan.step s cur = .advanced t cur') :
    t.Counts plan.options.blocks cur'.before.toList := by
  obtain ⟨c, cs, hrest⟩ := exists_cons_of_step hstep
  obtain ⟨-, -, hpiece⟩ := atBlock_bracketed h hreach.opened hrest hreach.aligned.depth
  have hchar : ∀ {t}, (s.atBlock (plan.blockAt s cur)).SameOpen t →
      t.Counts plan.options.blocks (cur.advance c.toString.utf8ByteSize).before.toList :=
    counts_of_atBlock h hreach.opened hrest hreach.aligned.depth hcounts
  have hstop := stop?_eq_none hstops (s.atBlock (plan.blockAt s cur)) cur
  rw [step_looks hrest (looks_of_bracketed h hreach.opened cur.rest)] at hstep
  by_cases hdelims : plan.delims = []
  · have hopen := State.sameOpen_atBlockEdge (s.atBlock (plan.blockAt s cur)) cur
      (plan.blockAt s cur) c.toString
    rw [inText_edge hstop hdelims] at hstep
    rw [hstep] at hopen
    rw [cursor_of_atBlockEdge hstep, hpiece]
    exact hchar hopen
  by_cases hnested : (s.atBlock (plan.blockAt s cur)).nesting ≠ [] ∨
      (plan.blockAt s cur).isClosing
  · rw [inText_nested hstop hdelims hnested, hpiece] at hstep
    cases hstep
    exact hchar ⟨rfl, rfl, rfl, rfl⟩
  -- Outside of blocks, where none begins or ends, a delimiter may match.
  obtain ⟨hflat, hclosing⟩ := not_or.mp hnested
  have hblock := blockAt_eq_none (not_not.mp hflat) hclosing
  rw [hblock] at hflat hchar
  have hnesting : s.nesting = [] := not_not.mp hflat
  rw [inText_flat (stop?_eq_none hstops s cur) hdelims hnesting hblock] at hstep
  cases hmatch : Delimiter.firstMatch? plan.delims cur s.ensureToken.buffer
      plan.options.caseInsensitive with
  | none =>
    rw [atDelimiter_of_no_match hmatch] at hstep
    cases hstep
    exact hchar ⟨rfl, rfl, rfl, rfl⟩
  | some matched =>
    rw [atDelimiter_of_match hmatch] at hstep
    cases hstep
    have hpassed := counts_of_match h hcounts (hchar ⟨rfl, rfl, rfl, rfl⟩) hnesting hmatch
    exact hpassed.congr (State.sameOpen_cutState plan s cur _ _)

theorem Reaches.counts (hstops : plan.stops = []) (hreach : plan.Reaches input s cur) :
    s.Counts plan.options.blocks cur.before.toList := by
  refine hreach.induct (motive := fun s cur => s.Counts plan.options.blocks cur.before.toList) ?_ ?_
  · exact .start plan.options.blocks
  · exact fun hreach hcounts hstep => counts_step h hstops hreach hcounts hstep

end Plan

/-- A scan has a result if the stack is empty in the end, and its greatest depth is then the largest
size that the stack had. Otherwise its error names the blocks on the stack from the bottom up. -/
theorem scan_bracketed (h : Bracketed options delims) (input : String) :
    ((∃ r, scan input options delims = .ok r) ↔
      Block.unclosed options.blocks input.toList = []) ∧
    (∀ r, scan input options delims = .ok r →
      IsGreatest (Block.depthsIn options.blocks input.toList) r.maxDepth) ∧
    (Block.unclosed options.blocks input.toList ≠ [] → scan input options delims =
      .error (.unterminatedBlock (Block.unclosed options.blocks input.toList).reverse)) := by
  have hmake : Plan.make options delims = .ok ⟨options, delims, []⟩ := by
    rw [Plan.make_eq_ok_iff, h.useRegex, h.stops]
    exact ⟨rfl, rfl, rfl⟩
  have hstops : Plan.stops ⟨options, delims, []⟩ = [] := rfl
  obtain ⟨s, hreach, hfinal⟩ := Plan.exists_reaches_end hstops input
  obtain ⟨hnesting, hdepth⟩ := hreach.counts h hstops
  have hstack : s.ensureToken.nesting = Block.unclosed options.blocks input.toList := hnesting
  rw [scan_of_make hmake, hfinal, ← hstack]
  refine ⟨?_, fun r hr => ?_, fun hopen => ?_⟩
  · exact State.exists_verdict_eq_ok_iff
  · obtain ⟨-, rfl⟩ := State.verdict_eq_ok_iff.mp hr
    exact hdepth
  · exact State.verdict_of_ne_nil hopen

/-- A bracket of another kind closes nothing. -/
theorem scan_crossed_brackets :
    Bracketed { quotes := [], comments := [] } [","] ∧
    Block.unclosed Block.defaultBlocks ['(', 'b', '[', 'c', ')', 'd', ']'] = [⟨"(", ")"⟩] ∧
    scan "(b[c)d]" { quotes := [], comments := [] } [","] =
      .error (.unterminatedBlock [⟨"(", ")"⟩]) ∧
    ∃ r, scan "(b[c]),d" { quotes := [], comments := [] } [","] = .ok r ∧
      IsGreatest (Block.depthsIn Block.defaultBlocks ['(', 'b', '[', 'c', ']', ')', ',', 'd'])
        r.maxDepth := by
  have hbracketed : Bracketed { quotes := [], comments := [] } [","] := by
    constructor
    case start =>
      simp only [Block.defaultBlocks, List.forall_mem_cons]
      exact ⟨⟨'(', rfl⟩, ⟨'[', rfl⟩, ⟨'\x7b', rfl⟩, nofun⟩
    case finish =>
      simp only [Block.defaultBlocks, List.forall_mem_cons]
      exact ⟨⟨')', rfl⟩, ⟨']', rfl⟩, ⟨'\x7d', rfl⟩, nofun⟩
    case apart => decide
    case literals =>
      simp only [List.forall_mem_cons]
      exact ⟨⟨",", rfl, by simp [Block.defaultBlocks, Char.toString]⟩, nofun⟩
    all_goals rfl
  obtain ⟨-, -, herror⟩ := scan_bracketed hbracketed "(b[c)d]"
  obtain ⟨-, hdepth, -⟩ := scan_bracketed hbracketed "(b[c]),d"
  exact ⟨hbracketed, rfl, herror (by decide), _, rfl, hdepth _ rfl⟩

end DelimiterScan
