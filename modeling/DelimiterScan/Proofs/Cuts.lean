import DelimiterScan.Proofs.Aligned
import DelimiterScan.Proofs.Resolve
import DelimiterScan.Proofs.Widths

/-!
# Cuts

A step adds one cut at most, and finishes one token with it. With delimiters the cut has a match,
which is noted under the offset of the cursor; without, it has none and nothing is noted. This is
`Plan.Records`. From it come the invariants that tie the cuts of a state to its tokens, to the
limit, and to the offsets (`Tallies`), for every state of a scan (`tallies_of_visits`).
-/

namespace DelimiterScan

variable {plan : Plan} {input : String} {s t : State} {cur cur' : Cursor}

namespace Plan

/-- What a step from `s` at `cur` adds to the cuts, if it leaves the state `t`. -/
inductive Records (plan : Plan) (s : State) (cur : Cursor) (t : State) : Prop
  | kept (finished : t.buffer.finished = s.buffer.finished) (cuts : t.cuts = s.cuts)
      (cutsAt : t.cutsAt = s.cutsAt)
  | edge (delims : plan.delims = []) (limit : plan.options.limit ≠ some s.cuts.size)
      (finished : ∃ token, t.buffer.finished = s.buffer.finished.push token)
      (cuts : t.cuts = s.cuts.push none) (cutsAt : t.cutsAt = s.cutsAt)
  | delimiter (text : String) (delims : plan.delims ≠ [])
      (limit : plan.options.limit ≠ some s.cuts.size)
      (finished : ∃ token, t.buffer.finished = s.buffer.finished.push token)
      (cuts : t.cuts = s.cuts.push (some text))
      (cutsAt : t.cutsAt = s.cutsAt.push (cur.offset, text))

theorem records_inComment (quote : Option String) (comment : Option Block) (b : Boundary Block)
    (c : String) : plan.Records s cur
      (inComment { s with openQuote := quote, openComment := comment } cur b c).state := by
  unfold inComment
  dsimp only
  split
  · cases b <;> exact .kept rfl rfl rfl
  · exact .kept rfl rfl rfl

theorem records_atBlockEdge (hlooks : plan.Looks s cur.rest) (hdelims : plan.delims = [])
    (b : Boundary Block) (c : String) :
    plan.Records s cur (atBlockEdge (s.atBlock b) cur b c).state := by
  have hreaction := reaction_atBlockEdge (s.atBlock b) cur b c
  generalize atBlockEdge (s.atBlock b) cur b c = o at hreaction
  cases hreaction with
  | plain => cases b <;> exact .kept rfl rfl rfl
  | cutBefore | cutBehind => exact .edge hdelims hlooks.limit ⟨_, rfl⟩ rfl rfl

theorem records_cutState (hlooks : plan.Looks s cur.rest) (hdelims : plan.delims ≠ [])
    (matched : String) (width : Nat) :
    plan.Records s cur (plan.cutState s cur matched width) := by
  unfold cutState
  dsimp only
  split
  · exact .delimiter matched hdelims hlooks.limit ⟨_, rfl⟩ rfl rfl
  · split
    · exact .delimiter matched hdelims hlooks.limit ⟨_, rfl⟩ rfl rfl
    · exact .delimiter matched hdelims hlooks.limit ⟨_, rfl⟩ rfl rfl

/-- A step adds one cut at most, in one of two ways. -/
theorem records_step (plan : Plan) (s : State) (cur : Cursor) :
    plan.Records s cur (plan.step s cur).state := by
  cases hrest : cur.rest with
  | nil =>
    rw [step_of_rest_nil hrest]
    exact .kept rfl rfl rfl
  | cons c cs =>
    have hreaction := plan.reaction_step s hrest
    generalize plan.step s cur = o at hreaction
    cases hreaction with
    | commentBegins | commentGoesOn | commentEnds => exact records_inComment _ _ _ _
    | quoteBegins | quoteGoesOn | quoteEnds | limited | unmatched => exact .kept rfl rfl rfl
    | stopped | nested =>
      cases plan.blockAt s cur <;> exact .kept rfl rfl rfl
    | edge hlooks _ hdelims => exact records_atBlockEdge hlooks hdelims _ _
    | matched hlooks _ hdelims _ _ _ => exact records_cutState hlooks hdelims _ _

theorem records_of_advanced (h : plan.step s cur = .advanced t cur') : plan.Records s cur t := by
  have hrecords := plan.records_step s cur
  rwa [h] at hrecords

/-- The last step of a scan makes no cut. -/
theorem cuts_of_finished (h : plan.step s cur = .finished t) :
    t.cuts = s.cuts ∧ t.cutsAt = s.cutsAt := by
  cases hrest : cur.rest with
  | nil =>
    rw [step_of_rest_nil hrest] at h
    cases h
    exact ⟨rfl, rfl⟩
  | cons c cs =>
    obtain ⟨matched, -, -, -, rfl⟩ := stopped_of_finished hrest h
    cases plan.blockAt s cur <;> exact ⟨rfl, rfl⟩

/-- The scan of `input` comes by `s` at `cur`, or it ends there and its last step leaves `s`. -/
inductive Visits (plan : Plan) (input : String) : State → Cursor → Prop
  | passing {s : State} {cur : Cursor} (h : plan.Reaches input s cur) : Visits plan input s cur
  | last {s t : State} {cur : Cursor} (h : plan.Reaches input s cur)
      (hend : plan.step s cur = .finished t) : Visits plan input t cur

end Plan

/-! ## Cuts beside matches, limit and offsets -/

/-- The cuts of a state at an offset: not more than allowed, and beside each the match that it was
made at, each at an offset of its own that is a character boundary farther back. -/
structure State.Noted (plan : Plan) (input : String) (s : State) (offset : Nat) : Prop where
  limit : ∀ n ∈ plan.options.limit, s.cuts.size ≤ n
  cuts : plan.delims ≠ [] → s.cuts = s.cutsAt.map (some ·.2)
  edges : plan.delims = [] → (∀ cut ∈ s.cuts, cut = none) ∧ s.cutsAt = #[]
  rising : s.cutsAt.toList.Pairwise (·.1 < ·.1)
  behind : ∀ m ∈ s.cutsAt, m.1 < offset ∧ Text.IsBoundary input m.1

namespace State.Noted

theorem start (plan : Plan) (input : String) : Noted plan input {} 0 where
  limit _ _ := Nat.zero_le _
  cuts _ := Array.map_empty.symm
  edges _ := ⟨nofun, rfl⟩
  rising := .nil
  behind := nofun

/-- Nothing that is noted changes where no cut is made. -/
theorem congr {offset : Nat} (h : Noted plan input s offset) (hcuts : t.cuts = s.cuts)
    (hcutsAt : t.cutsAt = s.cutsAt) : Noted plan input t offset := by
  obtain ⟨hlimit, hmatches, hedges, hrising, hbehind⟩ := h
  rw [← hcuts] at hlimit
  constructor
  · exact hlimit
  · rwa [hcuts, hcutsAt]
  · rwa [hcuts, hcutsAt]
  · rwa [hcutsAt]
  · rwa [hcutsAt]

theorem mono {i j : Nat} (h : Noted plan input s i) (hle : i ≤ j) : Noted plan input s j :=
  { h with behind := fun m hm => ⟨Nat.lt_of_lt_of_le (h.behind m hm).1 hle, (h.behind m hm).2⟩ }

theorem size_push_le {β : Type} {xs : Array β} {x : β} {limit : Option Nat}
    (h : ∀ n ∈ limit, xs.size ≤ n) (hne : limit ≠ some xs.size) :
    ∀ n ∈ limit, (xs.push x).size ≤ n := by
  intro n hn
  have hle := h n hn
  have hneq : n ≠ xs.size := by
    rintro rfl
    exact hne hn
  rw [Array.size_push]
  omega

/-- A step keeps what is noted, and notes its own cut at the cursor. -/
theorem step (h : Noted plan cur.text s cur.offset)
    (hstep : plan.step s cur = .advanced t cur') : Noted plan cur.text t cur'.offset := by
  have hlt : cur.offset < cur'.offset := by
    obtain ⟨c, cs, hrest⟩ := Plan.exists_cons_of_step hstep
    obtain ⟨width, rfl⟩ := Plan.step_advances hstep
    exact Cursor.offset_lt_advance width (hrest ▸ List.cons_ne_nil c cs)
  cases Plan.records_of_advanced hstep with
  | kept _ hcuts hcutsAt => exact (h.congr hcuts hcutsAt).mono hlt.le
  | edge hdelims hlimit _ hcuts hcutsAt =>
    refine ⟨?_, fun hne => absurd hdelims hne, fun _ => ?_, ?_, ?_⟩
    · rw [hcuts]
      exact size_push_le h.limit hlimit
    · obtain ⟨hnone, hempty⟩ := h.edges hdelims
      rw [hcuts, hcutsAt]
      refine ⟨fun cut hcut => ?_, hempty⟩
      rcases Array.mem_push.mp hcut with hcut | rfl
      · exact hnone cut hcut
      · rfl
    · rw [hcutsAt]
      exact h.rising
    · rw [hcutsAt]
      exact (h.mono hlt.le).behind
  | delimiter text hdelims hlimit _ hcuts hcutsAt =>
    refine ⟨?_, fun _ => ?_, fun hnil => absurd hnil hdelims, ?_, ?_⟩
    · rw [hcuts]
      exact size_push_le h.limit hlimit
    · rw [hcuts, hcutsAt, Array.map_push, h.cuts hdelims]
    · rw [hcutsAt, Array.toList_push, List.pairwise_append]
      refine ⟨h.rising, List.pairwise_singleton _ _, fun m hm m' hm' => ?_⟩
      rw [List.mem_singleton.mp hm']
      exact (h.behind m (Array.mem_toList_iff.mp hm)).1
    · -- The new match stands at the cursor, which the step has left behind.
      rw [hcutsAt]
      intro m hm
      rcases Array.mem_push.mp hm with hm | rfl
      · exact (h.mono hlt.le).behind m hm
      · exact ⟨hlt, cur.isBoundary_offset⟩

end State.Noted

namespace Plan

theorem Reaches.noted (h : plan.Reaches input s cur) : s.Noted plan input cur.offset := by
  refine h.induct (motive := fun s cur => s.Noted plan input cur.offset) ?_ ?_
  · exact .start plan input
  · intro s t cur cur' hreach hnoted hstep
    rw [← hreach.text] at hnoted ⊢
    exact hnoted.step hstep

theorem Visits.noted (h : plan.Visits input s cur) : s.Noted plan input cur.offset := by
  cases h with
  | passing h => exact h.noted
  | last h hend =>
    obtain ⟨hcuts, hcutsAt⟩ := cuts_of_finished hend
    exact h.noted.congr hcuts hcutsAt

end Plan

/-! ## Cuts beside tokens -/

/-- A change of the current token is a change at one index: of the token there, or of a new one. -/
theorem TokenBuffer.tokens_modify_eq_push (b : TokenBuffer) (f : Token → Token) :
    (b.modify f).tokens =
      (b.tokens.extract 0 b.finished.size).push (f (b.tokens[b.finished.size]?.getD {})) := by
  rw [tokens_modify, tokens]
  cases b.current with
  | none => simp
  | some token => simp

theorem TokenBuffer.getElem?_tokens {b : TokenBuffer} {i : Nat} (h : i < b.finished.size) :
    b.tokens[i]? = b.finished[i]? := by
  rw [tokens]
  cases b.current with
  | none => rfl
  | some token => rw [Array.getElem?_push, if_neg h.ne]

/-- Tokens, cuts and matches of a state tally with each other, at an offset of the input. -/
structure State.Tallies (options : Options) (delims : List Delimiter) (input : String) (s : State)
    (offset : Nat) : Prop where
  tokens : s.buffer.tokens.size = s.cuts.size ∨ s.buffer.tokens.size = s.cuts.size + 1
  nested : s.nesting ≠ [] → s.buffer.tokens.size = s.cuts.size + 1
  /-- What is written goes to the token behind the last cut, which is the last token then. -/
  written : ∀ f, (s.buffer.modify f).tokens =
    (s.buffer.tokens.extract 0 s.cuts.size).push (f (s.buffer.tokens[s.cuts.size]?.getD {}))
  limit : ∀ n ∈ options.limit, s.cuts.size ≤ n
  cuts : delims ≠ [] → s.cuts = s.cutsAt.map (some ·.2)
  edges : delims = [] → (∀ cut ∈ s.cuts, cut = none) ∧ s.cutsAt = #[]
  rising : s.cutsAt.toList.Pairwise (·.1 < ·.1)
  behind : ∀ m ∈ s.cutsAt, m.1 < offset ∧ Text.IsBoundary input m.1

namespace Plan

variable {options : Options} {delims : List Delimiter}

theorem finished_of_visits (h : plan.Visits input s cur) :
    s.buffer.finished.size = s.cuts.size := by
  cases h with
  | passing h => exact h.aligned.finished
  | last h hend => exact finished_of_finished h.aligned hend

/-- Inside a block the current token is begun. -/
theorem begun_of_visits (h : plan.Visits input s cur) (hnesting : s.nesting ≠ []) :
    s.buffer.current.isSome = true := by
  cases h with
  | passing h => exact h.aligned.begun hnesting
  | @last s t cur h hend =>
    cases hrest : cur.rest with
    | nil =>
      rw [step_of_rest_nil hrest] at hend
      cases hend
      exact h.aligned.begun hnesting
    | cons c cs =>
      obtain ⟨matched, -, hnil, -, rfl⟩ := stopped_of_finished hrest hend
      exact absurd hnil hnesting

theorem tallies_of_visits (hmake : Plan.make options delims = .ok plan)
    (h : plan.Visits input s cur) : s.Tallies options delims input cur.offset := by
  obtain ⟨rfl, hdelims, -⟩ := make_eq_ok_iff.mp hmake
  have hempty := resolve_eq_nil_iff hdelims
  have hfinished := finished_of_visits h
  have hsize := s.buffer.size_tokens
  have hnoted := h.noted
  rw [hfinished] at hsize
  refine ⟨?_, fun hnesting => ?_, fun f => ?_, hnoted.limit, fun hne => ?_, fun hnil => ?_,
    hnoted.rising, hnoted.behind⟩
  · rw [hsize]
    split
    · exact .inr rfl
    · exact .inl rfl
  · rw [hsize, if_pos (begun_of_visits h hnesting)]
  · rw [TokenBuffer.tokens_modify_eq_push, hfinished]
  · exact hnoted.cuts (mt hempty.mp hne)
  · exact hnoted.edges (hempty.mpr hnil)

/-- A step writes to no token before the last cut. -/
theorem getElem?_tokens_step (h : plan.Reaches input s cur) {i : Nat} (hi : i < s.cuts.size) :
    (plan.step s cur).state.buffer.tokens[i]? = s.buffer.tokens[i]? := by
  rw [← h.aligned.finished] at hi
  have hgrown : i < (plan.step s cur).state.buffer.finished.size ∧
      (plan.step s cur).state.buffer.finished[i]? = s.buffer.finished[i]? := by
    cases plan.records_step s cur with
    | kept hfinished => exact ⟨hfinished ▸ hi, by rw [hfinished]⟩
    | edge _ _ hfinished | delimiter _ _ _ hfinished =>
      obtain ⟨token, hfinished⟩ := hfinished
      rw [hfinished, Array.size_push, Array.getElem?_push, if_neg hi.ne]
      exact ⟨by omega, rfl⟩
  rw [TokenBuffer.getElem?_tokens hgrown.1, hgrown.2, TokenBuffer.getElem?_tokens hi]

/-- A result has one token more than cuts, and no open block. -/
theorem size_tokens_of_scan {r : ScanResult} (h : scan input options delims = .ok r) :
    r.tokens.size = r.cuts.size + 1 ∧ r.nesting = [] := by
  cases hmake : Plan.make options delims with
  | error e =>
    rw [scan_of_make_error hmake] at h
    cases h
  | ok plan =>
    obtain ⟨s, cur, t, hreach, hend, hfinal⟩ := exists_reaches_finished plan input
    have hfinished : t.buffer.finished.size = t.cuts.size :=
      finished_of_visits (.last hreach hend)
    rw [scan_of_make hmake, hfinal, State.verdict_eq_ok_iff] at h
    obtain ⟨hnesting, rfl⟩ := h
    refine ⟨?_, hnesting⟩
    show t.ensureToken.buffer.tokens.size = t.cuts.size + 1
    rw [← hfinished]
    simp [State.ensureToken, TokenBuffer.ensure]

/-- In every state of a scan tokens, cuts and matches tally; a step leaves the tokens before the
last cut alone; and every result has one token more than cuts. -/
theorem tallies_of_scan (hmake : Plan.make options delims = .ok plan) (input : String) :
    (∀ s cur, plan.Visits input s cur → s.Tallies options delims input cur.offset) ∧
    (∀ s cur, plan.Reaches input s cur → ∀ i < s.cuts.size,
      (plan.step s cur).state.buffer.tokens[i]? = s.buffer.tokens[i]?) ∧
    ∀ r, scan input options delims = .ok r → r.tokens.size = r.cuts.size + 1 ∧ r.nesting = [] :=
  ⟨fun _ _ => tallies_of_visits hmake, fun _ _ h _ => getElem?_tokens_step h,
    fun _ => size_tokens_of_scan⟩

/-- Behind the one cut that is allowed. -/
theorem tallies_behind_cut :
    Plan.make { limit := some 1 } [.literal ","] = .ok ⟨{ limit := some 1 }, [.literal ","], []⟩ ∧
    Plan.Visits ⟨{ limit := some 1 }, [.literal ","], []⟩ "a,b,c"
      { buffer := ⟨#[⟨"a", []⟩], none⟩, cuts := #[some ","], cutsAt := #[(1, ",")] }
      ⟨"a,", ['b', ',', 'c']⟩ ∧
    State.Tallies { limit := some 1 } [.literal ","] "a,b,c"
      { buffer := ⟨#[⟨"a", []⟩], none⟩, cuts := #[some ","], cutsAt := #[(1, ",")] } 2 := by
  have hletter : Plan.Reaches ⟨{ limit := some 1 }, [.literal ","], []⟩ "a,b,c"
      { buffer := ⟨#[], some ⟨"a", []⟩⟩ } ⟨"a", [',', 'b', ',', 'c']⟩ :=
    Reaches.start.step rfl
  have hvisits : Plan.Visits ⟨{ limit := some 1 }, [.literal ","], []⟩ "a,b,c"
      { buffer := ⟨#[⟨"a", []⟩], none⟩, cuts := #[some ","], cutsAt := #[(1, ",")] }
      ⟨"a,", ['b', ',', 'c']⟩ :=
    .passing (hletter.step rfl)
  exact ⟨rfl, hvisits, (tallies_of_scan rfl "a,b,c").1 _ _ hvisits⟩

end Plan

end DelimiterScan
