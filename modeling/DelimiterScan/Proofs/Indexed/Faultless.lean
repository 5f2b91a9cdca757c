import DelimiterScan.Proofs.Indexed.Step

/-!
# No fault is reached

A scan with offsets and indices goes where the scan goes: each of its configurations mirrors one
of the scan (`Mirrors`), and a step keeps that. So no slice is taken inside a character, no index
misses its table, no sum overflows, and there are no more steps than characters
(`scan_never_faults`).
-/

namespace DelimiterScan.Indexed

variable {plan : Plan} {input : String} {p q : State × Nat} {ps : List (State × Nat)}
  {m : State} {s s' : DelimiterScan.State} {cur cur' : Cursor}

def Moves (plan : Plan) (input : String) (p q : State × Nat) : Prop :=
  step plan input p.1 p.2 = .ok (q.1, some q.2)

/-- A state with an offset stands where the scan of `input` stands with a state and a cursor. -/
structure Mirrors (plan : Plan) (input : String) (p : State × Nat) (s : DelimiterScan.State)
    (cur : Cursor) : Prop where
  represents : Represents plan.options p.1 s
  aligned : s.Aligned
  text : cur.text = input
  offset : p.2 = cur.offset

theorem mirrors_start (plan : Plan) (input : String) :
    Mirrors plan input ({}, 0) {} (.ofText input) :=
  ⟨represents_start _, DelimiterScan.State.aligned_start, by simp [Cursor.ofText, Cursor.text], rfl⟩

namespace Mirrors

theorem agrees (h : Mirrors plan input p s cur) (hsize : input.utf8ByteSize < 2 ^ 63)
    (hbelow : Delimiter.AllBelow (2 ^ 63) plan.delims) :
    Agrees plan.options (step plan input p.1 p.2) (plan.step s cur) := by
  obtain ⟨hrep, haligned, rfl, hoffset⟩ := h
  rw [hoffset]
  exact agrees_step hrep haligned hsize hbelow

theorem exists_move (h : Mirrors plan input p s cur) (hsize : input.utf8ByteSize < 2 ^ 63)
    (hbelow : Delimiter.AllBelow (2 ^ 63) plan.delims)
    (hstep : plan.step s cur = .advanced s' cur') :
    ∃ q, Moves plan input p q ∧ Mirrors plan input q s' cur' := by
  have hagrees := h.agrees hsize hbelow
  rw [hstep] at hagrees
  generalize ho : step plan input p.1 p.2 = o at hagrees
  cases hagrees with
  | @advanced m' _ _ hrep =>
    obtain ⟨width, rfl⟩ := Plan.step_advances hstep
    refine ⟨(m', (cur.advance width).offset), ho, hrep, Plan.aligned_step h.aligned hstep, ?_, rfl⟩
    rw [Cursor.advance_text, h.text]

/-- A step with indices is one of the scan. -/
theorem of_move (h : Mirrors plan input p s cur) (hsize : input.utf8ByteSize < 2 ^ 63)
    (hbelow : Delimiter.AllBelow (2 ^ 63) plan.delims) (hmove : Moves plan input p q) :
    ∃ s' cur', plan.step s cur = .advanced s' cur' ∧ Mirrors plan input q s' cur' := by
  cases hstep : plan.step s cur with
  | finished s' =>
    have hagrees := h.agrees hsize hbelow
    rw [hstep] at hagrees
    generalize ho : step plan input p.1 p.2 = o at hagrees
    cases hagrees
    cases ho.symm.trans hmove
  | advanced s' cur' =>
    obtain ⟨q', hmove', hmirrors⟩ := h.exists_move hsize hbelow hstep
    have hsame : (q'.1, some q'.2) = (q.1, some q.2) := Except.ok.inj (hmove'.symm.trans hmove)
    obtain rfl : q' = q := by
      obtain ⟨hstate, hoffset⟩ := Prod.mk.inj hsame
      exact Prod.ext hstate (Option.some.inj hoffset)
    exact ⟨s', cur', rfl, hmirrors⟩

end Mirrors

/-! ## Runs -/

theorem exists_run (h : Mirrors plan input p s cur) (hsize : input.utf8ByteSize < 2 ^ 63)
    (hbelow : Delimiter.AllBelow (2 ^ 63) plan.delims) {fuel : Nat}
    (hfuel : cur.rest.length ≤ fuel) :
    ∃ m', run plan input fuel p.1 p.2 = .ok m' ∧
      Represents plan.options m' (plan.run fuel s cur) := by
  induction fuel generalizing p s cur with
  | zero =>
    -- Without fuel there is no character ahead either, so the step ends the run.
    have hrest : cur.rest = [] := List.eq_nil_of_length_eq_zero (Nat.le_zero.mp hfuel)
    have hagrees := h.agrees hsize hbelow
    rw [Plan.step_of_rest_nil hrest] at hagrees
    generalize ho : step plan input p.1 p.2 = o at hagrees
    cases hagrees with
    | @finished m' _ hrep =>
      refine ⟨m', ?_, hrep⟩
      rw [run, ho]
      rfl
  | succ fuel ih =>
    cases hstep : plan.step s cur with
    | finished s' =>
      have hagrees := h.agrees hsize hbelow
      rw [hstep] at hagrees
      generalize ho : step plan input p.1 p.2 = o at hagrees
      cases hagrees with
      | @finished m' _ hrep =>
        refine ⟨m', ?_, ?_⟩
        · rw [run, ho]
          rfl
        · rw [Plan.run, hstep]
          exact hrep
    | advanced s' cur' =>
      obtain ⟨q, hmove, hmirrors⟩ := h.exists_move hsize hbelow hstep
      have hshorter := Plan.length_rest_of_step hstep
      obtain ⟨m', hm', hrep⟩ := ih hmirrors (by omega)
      refine ⟨m', ?_, ?_⟩
      · rw [run, show step plan input p.1 p.2 = _ from hmove]
        exact hm'
      · rw [Plan.run, hstep]
        exact hrep

theorem verdict_eq_ok {options : Options} (h : Represents options m s) (delims : List Delimiter) :
    verdict m options delims = .ok (s.verdict delims options) := by
  rw [verdict, h.isEmpty_nesting, DelimiterScan.State.verdict]
  cases hnesting : s.nesting with
  | nil =>
    rw [List.isEmpty_nil, if_pos rfl, h.maxDepth, h.comments, h.tokens, h.cuts, h.cutsAt, h.stop]
    simp [DelimiterScan.State.result, hnesting]
  | cons k outer =>
    have hblocks : List.Forall₂ (fun i k => entry options.blocks i = .ok k) m.nesting.reverse
        (k :: outer).reverse := by
      rw [List.forall₂_reverse_iff, ← hnesting]
      exact h.nesting.imp fun _ _ => entry_eq_ok
    have hentries := mapM_eq_ok_iff.mpr hblocks
    rw [List.isEmpty_cons, if_neg Bool.false_ne_true, hentries]
    rfl

/-- The scan with indices does not fault, and its result is that of the scan. -/
theorem scan_eq_ok {options : Options} {delims : List Delimiter}
    (hsize : input.utf8ByteSize < 2 ^ 63) (hbelow : Delimiter.AllBelow (2 ^ 63) delims) :
    scan input options delims = .ok (DelimiterScan.scan input options delims) := by
  unfold scan
  cases hmake : Plan.make options delims with
  | error e => rw [scan_of_make_error hmake]
  | ok plan =>
    obtain ⟨rfl, hdelims, -⟩ := Plan.make_eq_ok_iff.mp hmake
    have hstart := mirrors_start plan input
    obtain ⟨m, hm, hrep⟩ := exists_run hstart hsize (Delimiter.allBelow_of_resolve hbelow hdelims)
      (Nat.le_refl input.toList.length)
    obtain ⟨m', hm', hrep'⟩ := exists_ensureToken hrep
      (Plan.finished_run hstart.aligned input.toList.length _)
    rw [scan_of_make hmake]
    simp only [hm, hm', bind, Except.bind]
    exact verdict_eq_ok hrep' delims

/-! ## Every chain of steps -/

/-- A chain of steps has no more of them than there are characters ahead, each farther on, and
each of its configurations mirrors one of the scan. -/
theorem Mirrors.chain (h : Mirrors plan input p s cur) (hsize : input.utf8ByteSize < 2 ^ 63)
    (hbelow : Delimiter.AllBelow (2 ^ 63) plan.delims)
    (hchain : (p :: ps).IsChain (Moves plan input)) :
    ps.length ≤ cur.rest.length ∧ (p :: ps).IsChain (fun p q => p.2 < q.2) ∧
      ∀ q ∈ p :: ps, ∃ s' cur', Mirrors plan input q s' cur' := by
  induction ps generalizing p s cur with
  | nil => exact ⟨Nat.zero_le _, .singleton p, by simpa using ⟨s, cur, h⟩⟩
  | cons q ps ih =>
    obtain ⟨hmove, hmore⟩ := List.isChain_cons_cons.mp hchain
    obtain ⟨s', cur', hstep, hmirrors⟩ := h.of_move hsize hbelow hmove
    obtain ⟨hlength, hoffsets, hall⟩ := ih hmirrors hmore
    have hshorter := Plan.length_rest_of_step hstep
    have hfarther : p.2 < q.2 := by
      obtain ⟨width, rfl⟩ := Plan.step_advances hstep
      rw [h.offset, hmirrors.offset]
      obtain ⟨c, cs, hrest⟩ := Plan.exists_cons_of_step hstep
      exact Cursor.offset_lt_advance width (hrest ▸ List.cons_ne_nil c cs)
    refine ⟨?_, List.isChain_cons_cons.mpr ⟨hfarther, hoffsets⟩, ?_⟩
    · rw [List.length_cons]
      omega
    · intro r hr
      rcases List.mem_cons.mp hr with rfl | hr
      · exact ⟨s, cur, h⟩
      · exact hall r hr

theorem Mirrors.isBoundary (h : Mirrors plan input p s cur) : Text.IsBoundary input p.2 := by
  rw [h.offset, ← h.text]
  exact cur.isBoundary_offset

theorem Mirrors.exists_stepped (h : Mirrors plan input p s cur)
    (hsize : input.utf8ByteSize < 2 ^ 63) (hbelow : Delimiter.AllBelow (2 ^ 63) plan.delims) :
    ∃ stepped, step plan input p.1 p.2 = .ok stepped := by
  have hagrees := h.agrees hsize hbelow
  generalize step plan input p.1 p.2 = stepped at hagrees ⊢
  generalize plan.step s cur = outcome at hagrees
  cases hagrees with
  | advanced _ => exact ⟨_, rfl⟩
  | finished _ => exact ⟨_, rfl⟩

/-! ## Within the bounds -/

variable {options : Options} {delims : List Delimiter}

theorem unterminatedBlock_of_verdict {e : ScanError} (h : s.verdict delims options = .error e) :
    ∃ unclosed, unclosed ≠ [] ∧ e = .unterminatedBlock unclosed := by
  unfold DelimiterScan.State.verdict at h
  split at h
  · cases h
  · next k outer hnesting =>
    cases h
    exact ⟨_, by simp, rfl⟩

theorem errors_of_scan {e : ScanError} (h : DelimiterScan.scan input options delims = .error e) :
    (∃ source fault, e = .invalidPattern source fault) ∨
      ∃ unclosed, unclosed ≠ [] ∧ e = .unterminatedBlock unclosed := by
  cases hmake : Plan.make options delims with
  | error e' =>
    rw [scan_of_make_error hmake] at h
    cases h
    exact .inl (Plan.invalidPattern_of_make hmake)
  | ok plan =>
    rw [scan_of_make hmake] at h
    exact .inr (unterminatedBlock_of_verdict h)

/-- Within these bounds no scan breaks off: no slice or index is out of place, no sum too large,
and no step too many. It moves from boundary to boundary, always on, and comes to a result or to
one of two errors. -/
theorem scan_never_faults (hsize : input.utf8ByteSize < 2 ^ 63)
    (hbelow : Delimiter.AllBelow (2 ^ 63) delims) :
    scan input options delims = .ok (DelimiterScan.scan input options delims) ∧
    (∀ plan ps, Plan.make options delims = .ok plan →
      (({}, 0) :: ps).IsChain (Moves plan input) →
      ps.length ≤ input.toList.length ∧
      (({}, 0) :: ps).Pairwise (fun p q => p.2 < q.2) ∧
      ∀ p ∈ ({}, 0) :: ps, Text.IsBoundary input p.2 ∧
        ∃ stepped, step plan input p.1 p.2 = .ok stepped) ∧
    ∀ e, DelimiterScan.scan input options delims = .error e →
      (∃ source fault, e = .invalidPattern source fault) ∨
        ∃ unclosed, unclosed ≠ [] ∧ e = .unterminatedBlock unclosed := by
  refine ⟨scan_eq_ok hsize hbelow, ?_, fun e => errors_of_scan⟩
  intro plan ps hmake hchain
  obtain ⟨-, hdelims, -⟩ := Plan.make_eq_ok_iff.mp hmake
  have hbelow' := Delimiter.allBelow_of_resolve hbelow hdelims
  obtain ⟨hlength, hoffsets, hall⟩ := (mirrors_start plan input).chain hsize hbelow' hchain
  refine ⟨hlength, ?_, ?_⟩
  · have : IsTrans (State × Nat) (fun p q => p.2 < q.2) := ⟨fun _ _ _ => Nat.lt_trans⟩
    exact List.isChain_iff_pairwise.mp hoffsets
  · intro p hp
    obtain ⟨s, cur, hmirrors⟩ := hall p hp
    exact ⟨hmirrors.isBoundary, hmirrors.exists_stepped hsize hbelow'⟩

def halfLetter : Predicate where
  identity := 0
  test _ rest _ := if rest.toList.head? = some 'é' then some "x" else none

theorem halfLetter_below : Delimiter.AllBelow (2 ^ 63) [.predicate halfLetter] := by
  intro p hp before rest tokens matched hmatched
  obtain rfl : p = halfLetter := by simpa using hp
  have hx : matched = "x" := by
    simp only [halfLetter, Option.ite_none_right_eq_some, Option.some.injEq] at hmatched
    exact hmatched.2.symm
  rw [hx]
  decide

/-- The cut at a half letter passes the whole one. -/
theorem scan_half_letter :
    "aéb".utf8ByteSize < 2 ^ 63 ∧ Delimiter.AllBelow (2 ^ 63) [.predicate halfLetter] ∧
    scan "aéb" {} [.predicate halfLetter] = .ok (.ok {
      delims := [.predicate halfLetter], options := {}, nesting := [], maxDepth := 0
      comments := [], tokens := #[⟨"a", []⟩, ⟨"b", []⟩], cuts := #[some "x"], cutsAt := #[(1, "x")]
      stop := none }) :=
  ⟨by decide, halfLetter_below, (scan_never_faults (by decide) halfLetter_below).1⟩

end DelimiterScan.Indexed
