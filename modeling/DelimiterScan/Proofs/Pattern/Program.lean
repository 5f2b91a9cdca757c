import DelimiterScan.Regex.Search
import Mathlib.Data.List.Basic

/-!
# Programs behind a condition

The nodes of an expression name each other and the node behind them, and no others (`closed_build`).
So a search does not see a node that is added to a table, unless it begins there. A program that
begins with the condition for the start of the text finds at the start of a text what it finds
without the condition (`matchLength?_textStart`).
-/

namespace DelimiterScan.Regex

open DelimiterScan.Unicode (RangeSet)

/-! ## Tables of nodes -/

/-- The nodes that are named come before the `n`-th. -/
def Node.Below (n : Nat) : Node → Prop
  | accept | fail => True
  | chars _ next | look _ next => next < n
  | fork first second => first < n ∧ second < n

theorem Node.Below.mono {n m : Nat} {node : Node} (h : node.Below n) (hle : n ≤ m) :
    node.Below m := by
  cases node with
  | accept | fail => trivial
  | chars _ next | look _ next => exact Nat.lt_of_lt_of_le h hle
  | fork first second => exact ⟨Nat.lt_of_lt_of_le h.1 hle, Nat.lt_of_lt_of_le h.2 hle⟩

namespace Program

def Closed (nodes : Array Node) : Prop := ∀ node ∈ nodes, node.Below nodes.size

theorem Closed.push {nodes : Array Node} {node : Node} (h : Closed nodes)
    (hnode : node.Below (nodes.size + 1)) : Closed (nodes.push node) := by
  intro other hother
  rw [Array.size_push]
  rcases Array.mem_push.mp hother with hmem | rfl
  · exact (h other hmem).mono (Nat.le_succ _)
  · exact hnode

theorem Closed.set {nodes : Array Node} {node : Node} (h : Closed nodes) (i : Nat)
    (hnode : node.Below nodes.size) : Closed (nodes.setIfInBounds i node) := by
  intro other hother
  rw [Array.size_setIfInBounds]
  rcases Array.mem_or_eq_of_mem_setIfInBounds hother with hmem | rfl
  · exact h other hmem
  · exact hnode

/-- What has been built for a successor in a table: a table that is closed again, with the node to
enter at. -/
structure Built (nodes : Array Node) (built : Nat × Array Node) : Prop where
  closed : Closed built.2
  entry : built.1 < built.2.size
  grown : nodes.size ≤ built.2.size

def Sound (body : Builder) : Prop :=
  ∀ next nodes, Closed nodes → next < nodes.size → Built nodes (body next nodes)

variable {body : Builder}

theorem Built.trans {nodes : Array Node} {built built' : Nat × Array Node}
    (h : Built nodes built) (h' : Built built.2 built') : Built nodes built' :=
  ⟨h'.closed, h'.entry, Nat.le_trans h.grown h'.grown⟩

theorem built_self {nodes : Array Node} {next : Nat} (h : Closed nodes)
    (hnext : next < nodes.size) : Built nodes (next, nodes) :=
  ⟨h, hnext, Nat.le_refl _⟩

theorem built_push {nodes : Array Node} {node : Node} (h : Closed nodes)
    (hnode : node.Below nodes.size) : Built nodes (nodes.size, nodes.push node) := by
  refine ⟨h.push (hnode.mono (Nat.le_succ _)), ?_, ?_⟩
  · exact (Array.size_push _).symm ▸ Nat.lt_succ_self _
  · exact (Array.size_push _).symm ▸ Nat.le_succ _

theorem below_forkTo {n inside outside : Nat} (greedy : Bool) (hinside : inside < n)
    (houtside : outside < n) : (forkTo greedy inside outside).Below n := by
  cases greedy with
  | true => exact ⟨hinside, houtside⟩
  | false => exact ⟨houtside, hinside⟩

theorem sound_copies (h : Sound body) (n : Nat) : Sound (copies body n) := by
  induction n with
  | zero => exact fun next nodes hclosed hnext => built_self hclosed hnext
  | succ n ih =>
    intro next nodes hclosed hnext
    have hbody := h next nodes hclosed hnext
    exact hbody.trans (ih _ _ hbody.closed hbody.entry)

theorem built_optionalCopies (h : Sound body) (greedy : Bool) {exit next : Nat}
    {nodes : Array Node} (n : Nat) (hclosed : Closed nodes) (hexit : exit < nodes.size)
    (hnext : next < nodes.size) :
    Built nodes (optionalCopies body greedy exit n next nodes) := by
  induction n generalizing next nodes with
  | zero => exact built_self hclosed hnext
  | succ n ih =>
    have hbody := h next nodes hclosed hnext
    have hfork := built_push hbody.closed
      (below_forkTo greedy hbody.entry (Nat.lt_of_lt_of_le hexit hbody.grown))
    refine hbody.trans (hfork.trans (ih hfork.closed ?_ hfork.entry))
    exact Nat.lt_of_lt_of_le hexit (Nat.le_trans hbody.grown hfork.grown)

/-- The fork of a loop is a dead end until its body has been built. -/
theorem sound_loop (h : Sound body) (greedy : Bool) : Sound (loop body greedy) := by
  intro next nodes hclosed hnext
  have hend : Built nodes (nodes.size, nodes.push .fail) := built_push hclosed trivial
  have hbody := h _ _ hend.closed hend.entry
  have hgrown := Nat.le_trans hend.grown hbody.grown
  have hfork := below_forkTo greedy hbody.entry (Nat.lt_of_lt_of_le hnext hgrown)
  refine ⟨hbody.closed.set nodes.size hfork, ?_, ?_⟩
  · exact (Array.size_setIfInBounds ..).symm ▸ hbody.entry
  · exact (Array.size_setIfInBounds ..).symm ▸ hgrown

theorem sound_build (e : Expr) : Sound (build e) := by
  induction e with
  | empty => exact fun next nodes hclosed hnext => built_self hclosed hnext
  | chars set => exact fun next nodes hclosed hnext => built_push hclosed hnext
  | look condition => exact fun next nodes hclosed hnext => built_push hclosed hnext
  | concat a b iha ihb =>
    intro next nodes hclosed hnext
    have hb := ihb next nodes hclosed hnext
    exact hb.trans (iha _ _ hb.closed hb.entry)
  | alternate a b iha ihb =>
    intro next nodes hclosed hnext
    have hb := ihb next nodes hclosed hnext
    have ha := iha next _ hb.closed (Nat.lt_of_lt_of_le hnext hb.grown)
    exact hb.trans (ha.trans (built_push ha.closed
      ⟨ha.entry, Nat.lt_of_lt_of_le hb.entry ha.grown⟩))
  | repeated e least greatest greedy ih =>
    intro next nodes hclosed hnext
    cases greatest with
    | none =>
      have hloop := sound_loop ih greedy next nodes hclosed hnext
      unfold build
      dsimp only
      split
      · exact hloop.trans (built_push hloop.closed
          (below_forkTo greedy hloop.entry (Nat.lt_of_lt_of_le hnext hloop.grown)))
      · exact hloop.trans (sound_copies ih _ _ _ hloop.closed hloop.entry)
    | some greatest =>
      have hopt := built_optionalCopies ih greedy (greatest - least) hclosed hnext hnext
      exact hopt.trans (sound_copies ih least _ _ hopt.closed hopt.entry)

theorem built_ofExpr (e : Expr) : Built #[.accept] ((ofExpr e).start, (ofExpr e).nodes) := by
  refine sound_build e 0 #[.accept] ?_ Nat.zero_lt_one
  intro node hnode
  rw [Array.mem_singleton.mp hnode]
  trivial

end Program

/-! ## Following nodes -/

open Program (Closed)

variable {nodes : Array Node} {before after : Option Char} {mark : Nat}

def unpassed (mark : Nat) (passed : Array Nat) : Nat := passed.countP (· ≠ mark)

theorem unpassed_set {passed : Array Nat} {i : Nat} (hi : i < passed.size)
    (hne : passed.getD i 0 ≠ mark) :
    unpassed mark (passed.setIfInBounds i mark) + 1 = unpassed mark passed := by
  have hi' : passed[i] ≠ mark := by simpa [hi] using hne
  have hpos : 0 < passed.countP (· ≠ mark) :=
    Array.countP_pos_iff.mpr ⟨passed[i], Array.getElem_mem hi, by simpa using hi'⟩
  unfold unpassed
  rw [Array.setIfInBounds_def, dif_pos hi, Array.countP_set]
  simp only [hi', ne_eq, not_false_eq_true, decide_true, if_true, not_true, decide_false,
    Bool.false_eq_true, if_false, Nat.add_zero]
  exact Nat.sub_add_cancel hpos

theorem unpassed_le (mark : Nat) (passed : Array Nat) : unpassed mark passed ≤ passed.size :=
  Array.countP_le_size

theorem getD_push_of_lt {α : Type} {xs : Array α} {i : Nat} (h : i < xs.size) (x d : α) :
    (xs.push x).getD i d = xs.getD i d := by
  rw [Array.getD_eq_getD_getElem?, Array.getD_eq_getD_getElem?, Array.getElem?_push,
    if_neg (Nat.ne_of_lt h)]

theorem setIfInBounds_push_of_lt {α : Type} {xs : Array α} {i : Nat} (h : i < xs.size) (x y : α) :
    (xs.push x).setIfInBounds i y = (xs.setIfInBounds i y).push x := by
  have h' : i < (xs.push x).size := by
    rw [Array.size_push]
    exact Nat.lt_succ_of_lt h
  rw [Array.setIfInBounds_def, Array.setIfInBounds_def, dif_pos h, dif_pos h', Array.set_push,
    dif_pos h]

theorem below_getD (hclosed : Closed nodes) {i : Nat} (hi : i < nodes.size) :
    (nodes.getD i .fail).Below nodes.size := by
  refine hclosed _ ?_
  rw [Array.getD, dif_pos hi]
  exact Array.getElem_mem hi

/-- A front for a table with one more node at its end, which is marked with `v`. -/
def Front.push (front : Front) (v : Nat) : Front := { front with passed := front.passed.push v }

/-- The nodes to go on from, and those that wait, are nodes of the table. -/
structure Front.Inside (nodes : Array Node) (front : Front) : Prop where
  size : front.passed.size = nodes.size
  waiting : ∀ i ∈ front.waiting, i < nodes.size

/-- A node behind the table makes no difference, nor does fuel beyond what is enough: each step
passes a node, and adds one to the list at most, or it makes the list shorter. -/
theorem Front.follow_push (hclosed : Closed nodes) (extra : Node) (v : Nat) {fuel fuel' : Nat}
    {front : Front} {todo : List Nat} (hfront : front.Inside nodes)
    (htodo : ∀ i ∈ todo, i < nodes.size)
    (hfuel : 2 * unpassed mark front.passed + todo.length ≤ fuel)
    (hfuel' : 2 * unpassed mark front.passed + todo.length ≤ fuel') :
    (front.push v).follow (nodes.push extra) before after mark fuel' todo =
      (front.follow nodes before after mark fuel todo).push v ∧
    (front.follow nodes before after mark fuel todo).Inside nodes := by
  induction fuel generalizing fuel' front todo with
  | zero =>
    obtain rfl : todo = [] := List.eq_nil_of_length_eq_zero (by omega)
    cases fuel' <;> exact ⟨rfl, hfront⟩
  | succ fuel ih =>
    cases todo with
    | nil => cases fuel' <;> exact ⟨rfl, hfront⟩
    | cons i todo =>
      rw [List.length_cons] at hfuel hfuel'
      obtain ⟨fuel', rfl⟩ : ∃ n, fuel' = n + 1 := ⟨fuel' - 1, by omega⟩
      obtain ⟨hi, htodo⟩ := List.forall_mem_cons.mp htodo
      have hi' : i < front.passed.size := hfront.size ▸ hi
      have hbelow := below_getD hclosed hi
      have hskipped : (front.push v).passed.getD i 0 = front.passed.getD i 0 :=
        getD_push_of_lt hi' v 0
      have hnode : (nodes.push extra).getD i .fail = nodes.getD i .fail :=
        getD_push_of_lt hi extra .fail
      have hmarked : (front.push v).passed.setIfInBounds i mark =
          (front.passed.setIfInBounds i mark).push v := setIfInBounds_push_of_lt hi' v mark
      rw [follow, follow, hskipped, hnode, hmarked]
      by_cases hpassed : front.passed.getD i 0 = mark
      · rw [if_pos hpassed, if_pos hpassed]
        exact ih hfront htodo (by omega) (by omega)
      rw [if_neg hpassed, if_neg hpassed]
      have hwork := unpassed_set hi' hpassed
      have hinside : Inside nodes { front with passed := front.passed.setIfInBounds i mark } :=
        ⟨(Array.size_setIfInBounds ..).trans hfront.size, hfront.waiting⟩
      generalize nodes.getD i .fail = node at hbelow ⊢
      cases node with
      | fail => exact ih hinside htodo (by dsimp only; omega) (by dsimp only; omega)
      | fork first second =>
        -- the list is longer now, but the node that has been passed counts double
        have htodo' : ∀ j ∈ first :: second :: todo, j < nodes.size := by
          simpa [hbelow.1, hbelow.2] using htodo
        refine ih hinside htodo' ?_ ?_ <;> simp only [List.length_cons] <;> omega
      | look condition next =>
        dsimp only
        by_cases hholds : condition.holds before after = true
        · rw [if_pos hholds, if_pos hholds]
          have htodo' : ∀ j ∈ next :: todo, j < nodes.size :=
            List.forall_mem_cons.mpr ⟨hbelow, htodo⟩
          refine ih hinside htodo' ?_ ?_ <;> simp only [List.length_cons] <;> omega
        · rw [if_neg hholds, if_neg hholds]
          exact ih hinside htodo (by dsimp only; omega) (by dsimp only; omega)
      | accept | chars =>
        have hwaits : Inside nodes
            ⟨i :: front.waiting, front.passed.setIfInBounds i mark⟩ :=
          ⟨hinside.size, List.forall_mem_cons.mpr ⟨hi, hfront.waiting⟩⟩
        exact ih hwaits htodo (by dsimp only; omega) (by dsimp only; omega)

/-! ## Searching -/

theorem Front.cut_push (extra : Node) {waiting : List Nat} (h : ∀ i ∈ waiting, i < nodes.size) :
    Front.cut (nodes.push extra) waiting = Front.cut nodes waiting ∧
      ∀ i ∈ (Front.cut nodes waiting).1, i < nodes.size := by
  induction waiting with
  | nil => exact ⟨rfl, nofun⟩
  | cons i waiting ih =>
    obtain ⟨hi, hwaiting⟩ := List.forall_mem_cons.mp h
    obtain ⟨hsame, hinside⟩ := ih hwaiting
    have hnode : (nodes.push extra).getD i .fail = nodes.getD i .fail :=
      getD_push_of_lt hi extra .fail
    rw [cut, cut, hnode, hsame]
    cases nodes.getD i .fail with
    | accept => exact ⟨rfl, nofun⟩
    | fail | chars | look | fork => exact ⟨rfl, List.forall_mem_cons.mpr ⟨hi, hinside⟩⟩

theorem takers_push (hclosed : Closed nodes) (extra : Node) (c : Char) {waiting : List Nat}
    (h : ∀ i ∈ waiting, i < nodes.size) :
    takers (nodes.push extra) c waiting = takers nodes c waiting ∧
      ∀ i ∈ takers nodes c waiting, i < nodes.size := by
  constructor
  · refine List.filterMap_congr fun i hi => ?_
    rw [getD_push_of_lt (h i hi)]
  · intro next hnext
    obtain ⟨i, hi, htakes⟩ := List.mem_filterMap.mp hnext
    have hbelow := below_getD hclosed (h i hi)
    generalize nodes.getD i .fail = node at hbelow htakes
    cases node with
    | chars set other =>
      obtain ⟨-, rfl⟩ : set.contains c.toNat = true ∧ other = next := by simpa using htakes
      exact hbelow
    | accept | fail | look | fork => cases htakes

namespace Program

/-- The ways to the position behind `taken` characters, from the nodes that are entered there. -/
def ways (program : Program) (passed : Array Nat) (before after : Option Char) (taken : Nat)
    (entered : List Nat) : Front :=
  Front.follow program.nodes before after (taken + 1)
    (2 * program.nodes.size + entered.length + 1) ⟨[], passed⟩ entered

/-- How a search goes on from the ways to a position. -/
def goOn (program : Program) (front : Front) (taken : Nat) (found : Option Nat)
    (text : List Char) : Option Nat :=
  let (waiting, ended) := Front.cut program.nodes front.waiting.reverse
  let found := if ended then some taken else found
  match text with
  | [] => found
  | c :: text =>
    program.run front.passed (some c) (taken + 1) found (takers program.nodes c waiting) text

theorem run_nil (program : Program) (passed : Array Nat) (before : Option Char) (taken : Nat)
    (found : Option Nat) (text : List Char) :
    program.run passed before taken found [] text = found := by
  rw [run.eq_def]
  rfl

theorem run_eq_goOn (program : Program) (passed : Array Nat) (before : Option Char) (taken : Nat)
    (found : Option Nat) {entered : List Nat} (h : entered ≠ []) (text : List Char) :
    program.run passed before taken found entered text =
      program.goOn (program.ways passed before text.head? taken entered) taken found text := by
  have hne : ¬ entered.isEmpty = true := by simpa using h
  rw [run.eq_def, if_neg hne]
  rfl

variable {entered : List Nat} {passed : Array Nat} {taken : Nat}

theorem inside_start (hpassed : passed.size = nodes.size) : Front.Inside nodes ⟨[], passed⟩ :=
  ⟨hpassed, fun _ hi => absurd hi List.not_mem_nil⟩

theorem ways_push (hclosed : Closed nodes) (extra : Node) (v start start' : Nat)
    (before after : Option Char) (taken : Nat) (hpassed : passed.size = nodes.size)
    (hentered : ∀ i ∈ entered, i < nodes.size) :
    ways ⟨nodes.push extra, start'⟩ (passed.push v) before after taken entered =
        (ways ⟨nodes, start⟩ passed before after taken entered).push v ∧
      (ways ⟨nodes, start⟩ passed before after taken entered).Inside nodes := by
  have hwork := unpassed_le (taken + 1) passed
  refine Front.follow_push hclosed extra v (inside_start hpassed) hentered ?_ ?_
  · dsimp only
    omega
  · dsimp only
    rw [Array.size_push]
    omega

/-- A search does not see a node behind the table. -/
theorem goOn_push (hclosed : Closed nodes) (extra : Node) (v start start' : Nat) {front : Front}
    (hfront : front.Inside nodes) (found : Option Nat) (text : List Char) :
    goOn ⟨nodes.push extra, start'⟩ (front.push v) taken found text =
      goOn ⟨nodes, start⟩ front taken found text := by
  have hwaits : (front.push v).waiting = front.waiting := rfl
  have hpassed : (front.push v).passed = front.passed.push v := rfl
  induction text generalizing front taken found with
  | nil =>
    obtain ⟨hcut, -⟩ := Front.cut_push extra fun i hi => hfront.waiting i (List.mem_reverse.mp hi)
    simp only [goOn, hwaits, hcut]
  | cons c text ih =>
    obtain ⟨hcut, hwaiting⟩ :=
      Front.cut_push extra fun i hi => hfront.waiting i (List.mem_reverse.mp hi)
    obtain ⟨htakers, hentered⟩ := takers_push hclosed extra c hwaiting
    simp only [goOn, hwaits, hpassed, hcut, htakers]
    generalize takers nodes c (Front.cut nodes front.waiting.reverse).1 = entered at hentered ⊢
    by_cases hne : entered = []
    · rw [hne, run_nil, run_nil]
    · obtain ⟨hways, hinside⟩ := ways_push hclosed extra v start start' (some c) text.head?
        (taken + 1) hfront.size hentered
      rw [run_eq_goOn _ _ _ _ _ hne, run_eq_goOn _ _ _ _ _ hne, hways]
      exact ih hinside _ rfl rfl

/-- At the start of a text, a condition for it leads to the node behind it. -/
theorem ways_textStart (hclosed : Closed nodes) {start : Nat} (hstart : start < nodes.size)
    (after : Option Char) :
    ways ⟨nodes.push (.look .textStart start), nodes.size⟩ (Array.replicate (nodes.size + 1) 0)
        none after 0 [nodes.size] =
        (ways ⟨nodes, start⟩ (Array.replicate nodes.size 0) none after 0 [start]).push 1 ∧
      (ways ⟨nodes, start⟩ (Array.replicate nodes.size 0) none after 0 [start]).Inside nodes := by
  have hsize : (Array.replicate nodes.size 0).size = nodes.size := Array.size_replicate
  have hwork := unpassed_le 1 (Array.replicate nodes.size 0)
  have hnode : (nodes.push (.look .textStart start)).getD nodes.size .fail =
      .look .textStart start := by
    simp [Array.getD_eq_getD_getElem?]
  have hfresh : (Array.replicate (nodes.size + 1) 0).getD nodes.size 0 ≠ 0 + 1 := by
    simp [Array.getD_eq_getD_getElem?]
  have hmarked : (Array.replicate (nodes.size + 1) 0).setIfInBounds nodes.size (0 + 1) =
      (Array.replicate nodes.size 0).push 1 := by
    rw [Array.replicate_succ]
    simp [Array.setIfInBounds_def, Array.set_push]
  -- the first step passes the condition, and the node behind the table is marked
  have hfirst : ways ⟨nodes.push (.look .textStart start), nodes.size⟩
      (Array.replicate (nodes.size + 1) 0) none after 0 [nodes.size] =
      (Front.push ⟨[], Array.replicate nodes.size 0⟩ 1).follow (nodes.push (.look .textStart start))
        none after 1 (2 * (nodes.size + 1) + 1) [start] := by
    rw [ways, Front.follow, if_neg hfresh, hmarked]
    dsimp only
    rw [hnode, Array.size_push]
    rfl
  rw [hfirst]
  refine Front.follow_push hclosed _ 1 (inside_start hsize) (by simpa using hstart) ?_ ?_
  · dsimp only [List.length_singleton]
    omega
  · dsimp only [List.length_singleton]
    omega

/-- At the start of a text, a program that asks for it first finds what it finds without. -/
theorem matchLength?_textStart (e : Expr) (text : List Char) :
    (ofExpr (.concat (.look .textStart) e)).matchLength? none text =
      (ofExpr e).matchLength? none text := by
  have hbuilt := built_ofExpr e
  have hprogram : ofExpr (.concat (.look .textStart) e) =
      ⟨(ofExpr e).nodes.push (.look .textStart (ofExpr e).start), (ofExpr e).nodes.size⟩ := rfl
  rw [hprogram]
  generalize ofExpr e = program at hbuilt ⊢
  obtain ⟨nodes, start⟩ := program
  obtain ⟨hways, hinside⟩ := ways_textStart hbuilt.closed hbuilt.entry text.head?
  unfold matchLength?
  dsimp only at hways hinside ⊢
  rw [run_eq_goOn _ _ _ _ _ (List.cons_ne_nil _ _), run_eq_goOn _ _ _ _ _ (List.cons_ne_nil _ _),
    Array.size_push, hways]
  exact goOn_push hbuilt.closed _ 1 start nodes.size hinside none text

end Program

end DelimiterScan.Regex
