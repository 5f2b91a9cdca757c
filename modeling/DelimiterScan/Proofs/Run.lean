import DelimiterScan.Scan
import Mathlib.Logic.Relation

/-!
# Runs of a scan

A configuration is a state with the place that it stands at. `Plan.Leads` follows the steps from
one configuration to another, and `Plan.Reaches` those of a scan from the beginning of its input.
Fuel is an artefact of the recursion: the final state is the one that the last step of the run
leaves (`Plan.finalState_eq`), and every input has such a last step (`Plan.exists_finished`).
-/

namespace DelimiterScan

namespace Plan

variable {plan : Plan} {input : String} {s s' : State} {cur cur' : Cursor} {p q : State × Cursor}

def Moves (plan : Plan) (p q : State × Cursor) : Prop :=
  plan.step p.1 p.2 = .advanced q.1 q.2

theorem Moves.state_step (h : plan.Moves p q) : (plan.step p.1 p.2).state = q.1 :=
  congrArg Outcome.state h

/-- Some steps, or none, go on from `p` to `q`. -/
abbrev Leads (plan : Plan) : State × Cursor → State × Cursor → Prop :=
  Relation.ReflTransGen plan.Moves

/-- The scan of `input` comes by `s` at `cur`. -/
def Reaches (plan : Plan) (input : String) (s : State) (cur : Cursor) : Prop :=
  plan.Leads ({}, .ofText input) (s, cur)

theorem Leads.single (h : plan.step s cur = .advanced s' cur') :
    plan.Leads (s, cur) (s', cur') :=
  Relation.ReflTransGen.single h

/-- A step before a run. -/
theorem Leads.cons (h : plan.step s cur = .advanced s' cur')
    (hrest : plan.Leads (s', cur') q) : plan.Leads (s, cur) q :=
  have hmove : plan.Moves (s, cur) (s', cur') := h
  .head hmove hrest

/-- A step after a run. -/
theorem Leads.snoc (hrun : plan.Leads p (s, cur)) (h : plan.step s cur = .advanced s' cur') :
    plan.Leads p (s', cur') :=
  hrun.tail h

theorem length_rest_le_of_leads (h : plan.Leads p q) : q.2.rest.length ≤ p.2.rest.length := by
  induction h with
  | refl => exact Nat.le_refl _
  | tail _ hstep ih => exact Nat.le_trans (Nat.le_of_lt (length_rest_of_step hstep)) ih

theorem step_advances (h : plan.step s cur = .advanced s' cur') :
    ∃ width, cur' = cur.advance width := by
  unfold step at h
  split at h
  · cases h
  · exact proceed_advances h

theorem step_of_rest_nil (h : cur.rest = []) : plan.step s cur = .finished s := by
  simp [step, h]

theorem exists_cons_of_step (h : plan.step s cur = .advanced s' cur') :
    ∃ c cs, cur.rest = c :: cs := by
  apply List.exists_cons_of_ne_nil
  intro hnil
  rw [step_of_rest_nil hnil] at h
  cases h

/-! ## Fuel -/

theorem run_of_finished {n : Nat} (hn : cur.rest.length ≤ n)
    (h : plan.step s cur = .finished s') : plan.run n s cur = s' := by
  cases n with
  | zero =>
    rw [step_of_rest_nil (List.eq_nil_of_length_eq_zero (Nat.le_zero.mp hn))] at h
    cases h
    rfl
  | succ n => simp [run, h]

/-- Fuel that suffices from a configuration suffices from every later one, with the same end. -/
theorem run_of_leads {n : Nat} (h : plan.Leads p q) (hn : p.2.rest.length ≤ n) :
    plan.run n p.1 p.2 = plan.run n q.1 q.2 := by
  induction h with
  | refl => rfl
  | @tail q r hpq hstep ih =>
    have hlt := length_rest_of_step hstep
    have hle := length_rest_le_of_leads hpq
    obtain ⟨m, rfl⟩ : ∃ m, n = m + 1 := ⟨n - 1, by omega⟩
    have hrun : plan.run (m + 1) q.1 q.2 = plan.run m r.1 r.2 := by
      simp only [run, show plan.step q.1 q.2 = .advanced r.1 r.2 from hstep]
    rw [ih, hrun]
    exact (run_of_le (by omega) (Nat.le_succ m)).symm

/-- Every run comes to a step that ends it. -/
theorem exists_finished (plan : Plan) (p : State × Cursor) :
    ∃ q s', plan.Leads p q ∧ plan.step q.1 q.2 = .finished s' := by
  induction hn : p.2.rest.length using Nat.strongRecOn generalizing p with
  | ind n ih =>
    subst hn
    cases hstep : plan.step p.1 p.2 with
    | finished s' => exact ⟨p, s', .refl, hstep⟩
    | advanced s cur =>
      obtain ⟨q, s', hq, hend⟩ := ih _ (length_rest_of_step hstep) (s, cur) rfl
      exact ⟨q, s', .cons hstep hq, hend⟩

/-- The step that ends the run of an input determines the final state. -/
theorem finalState_eq (h : plan.Reaches input s cur) (hend : plan.step s cur = .finished s') :
    plan.finalState input = s'.ensureToken := by
  have hle := length_rest_le_of_leads h
  have hrun : plan.run input.toList.length {} (.ofText input) = s' :=
    (run_of_leads h (Nat.le_refl _)).trans (run_of_finished hle hend)
  rw [finalState, hrun]

theorem Reaches.start : plan.Reaches input {} (.ofText input) := .refl

theorem Reaches.step (h : plan.Reaches input s cur)
    (hstep : plan.step s cur = .advanced s' cur') : plan.Reaches input s' cur' :=
  h.tail hstep

/-- An induction over the configurations that a scan comes by. -/
theorem Reaches.induct {motive : State → Cursor → Prop} (start : motive {} (.ofText input))
    (step : ∀ {s s' cur cur'}, plan.Reaches input s cur → motive s cur →
      plan.step s cur = .advanced s' cur' → motive s' cur')
    (h : plan.Reaches input s cur) : motive s cur := by
  have key : ∀ q, plan.Leads ({}, .ofText input) q → motive q.1 q.2 := by
    intro q hq
    induction hq with
    | refl => exact start
    | tail hpq hstep ih => exact step hpq ih hstep
  exact key _ h

/-- Nothing of the input is lost on the way. -/
theorem Reaches.text (h : plan.Reaches input s cur) : cur.text = input := by
  refine h.induct (motive := fun _ cur => cur.text = input) ?_ ?_
  · simp [Cursor.ofText, Cursor.text]
  · intro s s' cur cur' _ htext hstep
    obtain ⟨width, rfl⟩ := step_advances hstep
    rw [Cursor.advance_text, htext]

/-- A scan comes to an end, and its final state is the one that the last step leaves. -/
theorem exists_reaches_finished (plan : Plan) (input : String) :
    ∃ s cur s', plan.Reaches input s cur ∧ plan.step s cur = .finished s' ∧
      plan.finalState input = s'.ensureToken := by
  obtain ⟨⟨s, cur⟩, s', hreach, hend⟩ := exists_finished plan ({}, .ofText input)
  exact ⟨s, cur, s', hreach, hend, finalState_eq hreach hend⟩

end Plan

/-! ## Results -/

def State.result (s : State) (delims : List Delimiter) (options : Options) : ScanResult where
  delims := delims
  options := options
  nesting := s.nesting
  maxDepth := s.maxDepth
  comments := s.comments
  tokens := s.buffer.tokens
  cuts := s.cuts
  cutsAt := s.cutsAt
  stop := s.stop

/-- What a scan gives, if it ends in the state `s`: no result while a block is open. -/
def State.verdict (s : State) (delims : List Delimiter) (options : Options) :
    Except ScanError ScanResult :=
  match s.nesting with
  | [] => .ok (s.result delims options)
  | k :: outer => .error (.unterminatedBlock (k :: outer).reverse)

variable {plan : Plan} {options : Options} {delims : List Delimiter}
  {measure : Regex.RoomMeasure}

theorem State.verdict_of_nil {s : State} (h : s.nesting = []) :
    s.verdict delims options = .ok (s.result delims options) := by
  rw [verdict, h]

theorem State.verdict_eq_ok_iff {s : State} {r : ScanResult} :
    s.verdict delims options = .ok r ↔ s.nesting = [] ∧ s.result delims options = r := by
  unfold verdict
  split
  · next hnil => simp [hnil]
  · next hcons => simp [hcons]

theorem State.verdict_of_ne_nil {s : State} (h : s.nesting ≠ []) :
    s.verdict delims options = .error (.unterminatedBlock s.nesting.reverse) := by
  obtain ⟨k, outer, hcons⟩ := List.exists_cons_of_ne_nil h
  rw [verdict, hcons]

/-- There is a result if no block is open. -/
theorem State.exists_verdict_eq_ok_iff {s : State} :
    (∃ r, s.verdict delims options = .ok r) ↔ s.nesting = [] := by
  simp only [verdict_eq_ok_iff, exists_and_left, exists_eq', and_true]

theorem scan_of_make (h : Plan.make options delims measure = .ok plan) (input : String) :
    scan input options delims measure = (plan.finalState input).verdict delims options := by
  rw [scan, h, State.verdict]
  simp only [bind, Except.bind]
  cases hnesting : (plan.finalState input).nesting with
  | nil => simp [State.result, pure, Except.pure, hnesting]
  | cons k outer => simp

theorem scan_of_make_error {e : ScanError} (h : Plan.make options delims measure = .error e)
    (input : String) : scan input options delims measure = .error e := by
  rw [scan, h]
  rfl

/-- A result is what the final state of the plan holds. -/
theorem exists_plan_of_scan {input : String} {r : ScanResult}
    (h : scan input options delims measure = .ok r) :
    ∃ plan, Plan.make options delims measure = .ok plan ∧
      r = (plan.finalState input).result delims options := by
  cases hmake : Plan.make options delims measure with
  | error e =>
    rw [scan_of_make_error hmake] at h
    cases h
  | ok plan =>
    rw [scan_of_make hmake, State.verdict] at h
    split at h
    · exact ⟨plan, rfl, (Except.ok.inj h).symm⟩
    · cases h

end DelimiterScan
