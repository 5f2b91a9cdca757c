import DelimiterScan.Proofs.Alike
import DelimiterScan.Proofs.Limit
import DelimiterScan.Proofs.Unclosed

/-!
# Cuts at the edges of blocks

Without delimiters a text is cut at edges: before a block that opens directly inside an outermost
one, and behind an outermost block that closes. Where markers are characters and nothing but blocks
is looked for, the stack over the characters says where the edges are (`Block.EdgeBehind`), and the
tokens are the slices of the text between them (`scan_sliced`).
-/

namespace DelimiterScan

/-! ## Slices of a text -/

namespace Block

/-- There is an edge of the text `cs` behind its beginning `p`: the next character makes two open
blocks of one, or the last one has closed the only open block. -/
inductive EdgeBehind (blocks : List Block) (cs p : List Char) : Prop
  | opening {c : Char} (begins : p ++ [c] <+: cs) (outer : (unclosed blocks p).length = 1)
      (inner : (unclosed blocks (p ++ [c])).length = 2)
  | closing {p' : List Char} {c : Char} (last : p = p' ++ [c]) (begins : p <+: cs)
      (outer : (unclosed blocks p').length = 1) (closed : unclosed blocks p = [])

/-- One of the slices ends behind the text `p` that they make up. -/
def EndsBehind (slices : List (List Char)) (p : List Char) : Prop :=
  ∃ front, front ≠ [] ∧ front <+: slices ∧ front.flatten = p

/-- The slices of the text `cs` that end at its edges and nowhere else, and what is left of it
behind the last edge. -/
structure Sliced (blocks : List Block) (cs : List Char) (slices : List (List Char))
    (last : List Char) : Prop where
  joined : slices.flatten ++ last = cs
  nonempty : [] ∉ slices
  edges : ∀ p, EdgeBehind blocks cs p ↔ EndsBehind slices p

variable {blocks : List Block} {cs p last : List Char} {slices : List (List Char)} {c : Char}

/-- One more character may make an edge before it or behind it. -/
theorem edgeBehind_concat :
    EdgeBehind blocks (cs ++ [c]) p ↔ EdgeBehind blocks cs p ∨
      (p = cs ∧ (unclosed blocks cs).length = 1 ∧ (unclosed blocks (cs ++ [c])).length = 2) ∨
      (p = cs ++ [c] ∧ (unclosed blocks cs).length = 1 ∧ unclosed blocks (cs ++ [c]) = []) := by
  constructor
  · rintro (⟨hbegins, houter, hinner⟩ | ⟨hlast, hbegins, houter, hclosed⟩)
    · rcases List.prefix_concat_iff.mp hbegins with heq | hbegins
      · obtain ⟨rfl, rfl⟩ := List.append_singleton_inj.mp heq
        exact .inr (.inl ⟨rfl, houter, hinner⟩)
      · exact .inl (.opening hbegins houter hinner)
    · rcases List.prefix_concat_iff.mp hbegins with heq | hbegins
      · obtain ⟨rfl, rfl⟩ := List.append_singleton_inj.mp (hlast.symm.trans heq)
        exact .inr (.inr ⟨heq, houter, heq ▸ hclosed⟩)
      · exact .inl (.closing hlast hbegins houter hclosed)
  · have hmore : ∀ {q}, q <+: cs → q <+: cs ++ [c] := fun h => h.trans (List.prefix_append cs [c])
    rintro ((⟨hbegins, houter, hinner⟩ | ⟨hlast, hbegins, houter, hclosed⟩) |
      ⟨rfl, houter, hinner⟩ | ⟨rfl, houter, hclosed⟩)
    · exact .opening (hmore hbegins) houter hinner
    · exact .closing hlast (hmore hbegins) houter hclosed
    · exact .opening List.prefix_rfl houter hinner
    · exact .closing rfl List.prefix_rfl houter hclosed

theorem endsBehind_concat {slice : List Char} :
    EndsBehind (slices ++ [slice]) p ↔
      EndsBehind slices p ∨ p = slices.flatten ++ slice := by
  constructor
  · rintro ⟨front, hne, hbegins, rfl⟩
    rcases List.prefix_concat_iff.mp hbegins with rfl | hbegins
    · exact .inr List.flatten_concat
    · exact .inl ⟨front, hne, hbegins, rfl⟩
  · rintro (⟨front, hne, hbegins, rfl⟩ | rfl)
    · exact ⟨front, hne, hbegins.trans (List.prefix_append _ _), rfl⟩
    · exact ⟨slices ++ [slice], by simp, List.prefix_rfl, List.flatten_concat⟩

namespace Sliced

theorem start (blocks : List Block) : Sliced blocks [] [] [] := by
  refine ⟨rfl, List.not_mem_nil, fun p => ⟨?_, ?_⟩⟩
  · rintro (⟨hbegins, -, -⟩ | ⟨rfl, hbegins, -, -⟩)
    · simp at hbegins
    · simp at hbegins
  · rintro ⟨front, hne, hbegins, -⟩
    exact absurd (List.prefix_nil.mp hbegins) hne

/-- Inside a block the rest behind the last edge is not empty: it holds the marker of the block. -/
theorem last_ne_nil (h : Sliced blocks cs slices last) (hopen : unclosed blocks cs ≠ []) :
    last ≠ [] := by
  rintro rfl
  have hjoined : slices.flatten = cs := by simpa using h.joined
  have hslices : slices ≠ [] := by
    rintro rfl
    rw [← hjoined] at hopen
    exact hopen rfl
  -- The last slice ends at the end of the text, and an edge there has closed the only block.
  cases (h.edges cs).mpr ⟨slices, hslices, List.prefix_rfl, hjoined⟩ with
  | opening hbegins =>
    have hlength := hbegins.length_le
    rw [List.length_append, List.length_singleton] at hlength
    omega
  | closing _ _ _ hclosed => exact hopen hclosed

/-- A character beside no edge goes to the rest. -/
theorem kept (h : Sliced blocks cs slices last)
    (hinner : ¬ ((unclosed blocks cs).length = 1 ∧ (unclosed blocks (cs ++ [c])).length = 2))
    (hclosed : ¬ ((unclosed blocks cs).length = 1 ∧ unclosed blocks (cs ++ [c]) = [])) :
    Sliced blocks (cs ++ [c]) slices (last ++ [c]) := by
  refine ⟨?_, h.nonempty, fun p => ?_⟩
  · rw [← List.append_assoc, h.joined]
  · rw [edgeBehind_concat, h.edges]
    simp only [hinner, hclosed, and_false, or_false]

/-- Before a block inside an outermost one the rest becomes a slice. -/
theorem cut_before (h : Sliced blocks cs slices last) (houter : (unclosed blocks cs).length = 1)
    (hinner : (unclosed blocks (cs ++ [c])).length = 2) :
    Sliced blocks (cs ++ [c]) (slices ++ [last]) [c] := by
  have hlast : last ≠ [] := h.last_ne_nil fun hnil => by simp [hnil] at houter
  have hopen : unclosed blocks (cs ++ [c]) ≠ [] := fun hnil => by simp [hnil] at hinner
  refine ⟨?_, by simp [h.nonempty, hlast.symm], fun p => ?_⟩
  · rw [List.flatten_concat, h.joined]
  · rw [edgeBehind_concat, h.edges, endsBehind_concat, h.joined]
    simp only [houter, hinner, hopen, and_false, or_false, and_true]

/-- Behind the end of an outermost block the rest is a slice with this end. -/
theorem cut_behind (h : Sliced blocks cs slices last) (houter : (unclosed blocks cs).length = 1)
    (hclosed : unclosed blocks (cs ++ [c]) = []) :
    Sliced blocks (cs ++ [c]) (slices ++ [last ++ [c]]) [] := by
  have hinner : ¬ ([] : List Block).length = 2 := nofun
  refine ⟨?_, by simp [h.nonempty], fun p => ?_⟩
  · rw [List.flatten_concat, List.append_nil, ← List.append_assoc, h.joined]
  · rw [edgeBehind_concat, h.edges, endsBehind_concat, ← List.append_assoc, h.joined, hclosed]
    simp only [houter, hinner, and_false, false_or, and_true]

end Sliced

end Block

/-! ## Tokens are slices -/

def Token.ofChars (cs : List Char) : Token := .ofText (String.ofList cs)

/-- The finished tokens are the slices of the text `cs`, and the current one is the rest. -/
structure State.Slices (blocks : List Block) (s : State) (cs : List Char)
    (slices : List (List Char)) (last : List Char) : Prop
    extends Block.Sliced blocks cs slices last where
  finished : s.buffer.finished.toList = slices.map Token.ofChars
  current : s.buffer.current.getD {} = Token.ofChars last

variable {options : Options} {plan : Plan} {input : String} {s t : State} {cur cur' : Cursor}
  {blocks : List Block} {cs last : List Char} {slices : List (List Char)} {c : Char}

theorem Token.addText_ofChars (cs : List Char) (c : Char) :
    (Token.ofChars cs).addText c.toString = Token.ofChars (cs ++ [c]) := by
  rw [ofChars, ofChars, String.ofList_append]
  rfl

namespace State.Slices

theorem start (blocks : List Block) : Slices blocks {} [] [] [] := ⟨.start blocks, rfl, rfl⟩

variable (h : s.Slices blocks cs slices last) (hbuffer : t.buffer = s.buffer)

include h hbuffer

theorem current_addText :
    ((t.addText c.toString).buffer.current.getD {}) = Token.ofChars (last ++ [c]) := by
  rw [← Token.addText_ofChars, ← h.current, ← hbuffer]
  rfl

theorem kept
    (hinner : ¬ ((Block.unclosed blocks cs).length = 1 ∧
      (Block.unclosed blocks (cs ++ [c])).length = 2))
    (hclosed : ¬ ((Block.unclosed blocks cs).length = 1 ∧
      Block.unclosed blocks (cs ++ [c]) = [])) :
    (t.addText c.toString).Slices blocks (cs ++ [c]) slices (last ++ [c]) := by
  refine ⟨h.toSliced.kept hinner hclosed, ?_, h.current_addText hbuffer⟩
  rw [← h.finished, ← hbuffer]
  rfl

theorem cut_before (houter : (Block.unclosed blocks cs).length = 1)
    (hinner : (Block.unclosed blocks (cs ++ [c])).length = 2) :
    ((t.cut none).addText c.toString).Slices blocks (cs ++ [c]) (slices ++ [last]) [c] := by
  refine ⟨h.toSliced.cut_before houter hinner, ?_, Token.addText_ofChars [] c⟩
  show (t.buffer.finished.push (t.buffer.current.getD {})).toList = _
  rw [Array.toList_push, hbuffer, h.finished, h.current, List.map_append]
  rfl

theorem cut_behind (houter : (Block.unclosed blocks cs).length = 1)
    (hclosed : Block.unclosed blocks (cs ++ [c]) = []) :
    ((t.addText c.toString).cut none).Slices blocks (cs ++ [c]) (slices ++ [last ++ [c]]) [] := by
  refine ⟨h.toSliced.cut_behind houter hclosed, ?_, rfl⟩
  show (t.buffer.finished.push ((t.addText c.toString).buffer.current.getD {})).toList = _
  rw [Array.toList_push, hbuffer, h.finished, h.current_addText hbuffer, List.map_append]
  rfl

end State.Slices

namespace Plan

/-- Where the stack follows a block, a cut is made at an edge and nowhere else. -/
theorem slices_atBlockEdge {b : Boundary Block} (h : s.Slices blocks cs slices last)
    (hnesting : s.nesting = Block.unclosed blocks cs)
    (hstack : (s.atBlock b).nesting = Block.unclosed blocks (cs ++ [c]))
    (hmarker : b.marker?.getD c.toString = c.toString)
    (hcloses : ∀ k, b = .closes k → s.nesting ≠ [])
    (hstep : atBlockEdge (s.atBlock b) cur b c.toString = .advanced t cur') :
    ∃ slices last, t.Slices blocks (cs ++ [c]) slices last := by
  have hbuffer : (s.atBlock b).buffer = s.buffer := s.buffer_atBlock b
  have hreaction := reaction_atBlockEdge (s.atBlock b) cur b c.toString
  generalize atBlockEdge (s.atBlock b) cur b c.toString = o at hstep hreaction
  cases hreaction with
  | plain hopens hclosing =>
    cases hstep
    rw [hmarker]
    refine ⟨_, _, h.kept hbuffer ?_ ?_⟩
    · rw [← hnesting, ← hstack]
      rintro ⟨houter, hinner⟩
      cases b with
      | none => exact absurd (houter.symm.trans hinner) (by decide)
      | opens k => exact hopens k rfl hinner
      | closes k =>
        have hlength : s.nesting.tail.length = 2 := hinner
        rw [List.length_tail] at hlength
        omega
    · rw [← hnesting, ← hstack]
      rintro ⟨houter, hclosed⟩
      cases b with
      | none => exact absurd (houter.symm.trans (congrArg List.length hclosed)) (by decide)
      | opens k => cases hclosed
      | closes k => exact hclosing k rfl (congrArg List.length hclosed)
  | @cutBefore k hdepth =>
    cases hstep
    have hstart : k.start = c.toString := hmarker
    have houter : s.nesting.length = 1 := Nat.succ.inj hdepth
    rw [hstart]
    exact ⟨_, _, h.cut_before hbuffer (hnesting ▸ houter) (hstack ▸ hdepth)⟩
  | @cutBehind k hdepth =>
    cases hstep
    have hfinish : k.finish = c.toString := hmarker
    obtain ⟨innermost, outer, hs⟩ := List.exists_cons_of_ne_nil (hcloses k rfl)
    have htail : (s.atBlock (.closes k)).nesting = [] := List.eq_nil_of_length_eq_zero hdepth
    have houter : outer = [] := by
      rw [State.atBlock, hs] at htail
      exact htail
    rw [hfinish]
    refine ⟨_, _, h.cut_behind hbuffer ?_ (hstack.symm.trans htail)⟩
    rw [← hnesting, hs, houter, List.length_singleton]

/-- A step without delimiters slices the text where the stack has an edge. -/
theorem slices_step (h : Bracketed plan.options plan.delims) (hdelims : plan.delims = [])
    (hstops : plan.stops = []) (hreach : plan.Reaches input s cur)
    (hslices : s.Slices plan.options.blocks cur.before.toList slices last)
    (hstep : plan.step s cur = .advanced t cur') :
    ∃ slices last, t.Slices plan.options.blocks cur'.before.toList slices last := by
  obtain ⟨c, cs, hrest⟩ := exists_cons_of_step hstep
  obtain ⟨hnesting, -⟩ := hreach.counts h hstops
  obtain ⟨hnest, -, hmarker⟩ := atBlock_bracketed h hreach.opened hrest hreach.aligned.depth
  rw [step_looks hrest (looks_of_bracketed h hreach.opened cur.rest),
    inText_edge (stop?_eq_none hstops _ cur) hdelims] at hstep
  have hchar : cur'.before.toList = cur.before.toList ++ [c] := by
    rw [cursor_of_atBlockEdge hstep, hmarker,
      Cursor.toList_before_advance (Boundary.marked_toString hrest)]
    exact congrArg _ (String.toList_singleton c)
  rw [hchar]
  refine slices_atBlockEdge hslices hnesting ?_ hmarker (fun k hk => ?_) hstep
  · rw [hnest, hnesting, Block.unclosed_concat]
  · obtain ⟨⟨outer, hs⟩, -⟩ := Boundary.closes_of_ofBlocks hk
    simp [hs]

theorem Reaches.exists_slices (h : Bracketed plan.options plan.delims) (hdelims : plan.delims = [])
    (hstops : plan.stops = []) (hreach : plan.Reaches input s cur) :
    ∃ slices last, s.Slices plan.options.blocks cur.before.toList slices last := by
  refine hreach.induct (motive := fun s cur =>
    ∃ slices last, s.Slices plan.options.blocks cur.before.toList slices last) ?_ ?_
  · exact ⟨[], [], .start plan.options.blocks⟩
  · rintro s t cur cur' hreach ⟨slices, last, hslices⟩ hstep
    exact slices_step h hdelims hstops hreach hslices hstep

/-- The final state without delimiters: its tokens are slices, with a cut behind each but the
rest. -/
theorem finalState_slices (plan : Plan) (h : Bracketed plan.options plan.delims)
    (hdelims : plan.delims = []) (hstops : plan.stops = []) (input : String) :
    ∃ slices last, (plan.finalState input).Slices plan.options.blocks input.toList slices last ∧
      (plan.finalState input).cuts.toList = List.replicate slices.length none ∧
      (plan.finalState input).cutsAt = #[] := by
  obtain ⟨s, hreach, hfinal⟩ := exists_reaches_end hstops input
  obtain ⟨slices, last, hslices⟩ := hreach.exists_slices h hdelims hstops
  obtain ⟨hcuts, hcutsAt⟩ := hreach.noted.edges hdelims
  have hsize : s.cuts.toList.length = slices.length := by
    rw [Array.length_toList, ← hreach.aligned.finished, ← Array.length_toList, hslices.finished,
      List.length_map]
  rw [hfinal]
  refine ⟨slices, last, ⟨hslices.toSliced, hslices.finished, hslices.current⟩, ?_, hcutsAt⟩
  exact List.eq_replicate_iff.mpr ⟨hsize, fun cut hcut => hcuts cut (Array.mem_toList_iff.mp hcut)⟩

end Plan

/-! ## Results -/

/-- Markers are characters that do not both begin and end blocks, and nothing but blocks is looked
for. -/
structure BracketsOnly (options : Options) : Prop where
  start : ∀ k ∈ options.blocks, ∃ c : Char, k.start = c.toString
  finish : ∀ k ∈ options.blocks, ∃ c : Char, k.finish = c.toString
  apart : ∀ k ∈ options.blocks, ∀ k' ∈ options.blocks, k.start ≠ k'.finish
  quotes : options.quotes = []
  comments : options.comments = []
  stops : options.stops = []
  limit : options.limit = none

/-- Where there is nothing to match, it makes no difference how it would be matched. -/
theorem finalState_of_no_delims (options : Options) (input : String) :
    Plan.finalState ⟨options, [], []⟩ input =
      Plan.finalState
        ⟨{ options with useRegex := none, caseInsensitive := false }, [], []⟩ input := by
  refine Plan.Alike.finalState ?_ input
  exact ⟨rfl, rfl, rfl, rfl, rfl, rfl, fun _ _ => rfl, fun _ _ => rfl⟩

theorem join_ofList (slices : List (List Char)) :
    String.join (slices.map String.ofList) = String.ofList slices.flatten := by
  induction slices with
  | nil => rfl
  | cons slice slices ih =>
    rw [List.map_cons, String.join_cons, ih, List.flatten_cons, String.ofList_append]

/-- Without delimiters the tokens are the slices of the text that end at its edges, and behind the
last edge the rest. There is one cut for each edge, and none of them has a match. -/
theorem scan_sliced (h : BracketsOnly options) (input : String) {r : ScanResult}
    (hscan : scan input options [] = .ok r) :
    ∃ slices last, Block.Sliced options.blocks input.toList slices last ∧
      r.tokens.toList = (slices ++ [last]).map Token.ofChars ∧
      r.cuts.toList = List.replicate slices.length none ∧ r.cutsAt = #[] ∧
      String.join r.texts = input := by
  have hmake : Plan.make options [] = .ok ⟨options, [], []⟩ := by
    rw [Plan.make_eq_ok_iff, h.stops]
    cases options.useRegex <;> exact ⟨rfl, rfl, rfl⟩
  have hbracketed : Bracketed { options with useRegex := none, caseInsensitive := false } [] :=
    { h with useRegex := rfl, caseInsensitive := rfl, literals := nofun }
  rw [scan_of_make hmake, finalState_of_no_delims, State.verdict_eq_ok_iff] at hscan
  obtain ⟨-, rfl⟩ := hscan
  let plan : Plan := ⟨{ options with useRegex := none, caseInsensitive := false }, [], []⟩
  obtain ⟨slices, last, hslices, hcuts, hcutsAt⟩ := plan.finalState_slices hbracketed rfl rfl input
  have htokens : (plan.finalState input).buffer.tokens.toList =
      (slices ++ [last]).map Token.ofChars := by
    rw [plan.tokens_finalState, Array.toList_push, hslices.finished, hslices.current,
      List.map_append]
    rfl
  refine ⟨slices, last, hslices.toSliced, htokens, hcuts, hcutsAt, ?_⟩
  rw [ScanResult.texts, State.result, htokens, List.map_map]
  calc String.join ((slices ++ [last]).map ((·.text) ∘ Token.ofChars))
    _ = String.ofList (slices ++ [last]).flatten := join_ofList _
    _ = String.ofList input.toList := by rw [List.flatten_concat, hslices.joined]
    _ = input := String.ofList_toList

/-- Groups inside a group begin new tokens, and what follows the outermost one is a token too. -/
theorem scan_sliced_groups :
    BracketsOnly { quotes := [], comments := [], useRegex := some {} } ∧
    ∃ r slices last,
      scan "a(b[c](d(e))f)(g)" { quotes := [], comments := [], useRegex := some {} } [] = .ok r ∧
      Block.Sliced Block.defaultBlocks "a(b[c](d(e))f)(g)".toList slices last ∧
      r.tokens.toList = (slices ++ [last]).map Token.ofChars ∧
      r.texts = ["a(b", "[c]", "(d(e))f)", "(g)", ""] := by
  have hbrackets : BracketsOnly { quotes := [], comments := [], useRegex := some {} } := by
    constructor
    case start =>
      simp only [Block.defaultBlocks, List.forall_mem_cons]
      exact ⟨⟨'(', rfl⟩, ⟨'[', rfl⟩, ⟨'\x7b', rfl⟩, List.forall_mem_nil _⟩
    case finish =>
      simp only [Block.defaultBlocks, List.forall_mem_cons]
      exact ⟨⟨')', rfl⟩, ⟨']', rfl⟩, ⟨'\x7d', rfl⟩, List.forall_mem_nil _⟩
    case apart => decide
    all_goals rfl
  obtain ⟨slices, last, hsliced, htokens, -⟩ :=
    scan_sliced hbrackets "a(b[c](d(e))f)(g)" rfl
  exact ⟨hbrackets, _, slices, last, rfl, hsliced, htokens, rfl⟩

end DelimiterScan
