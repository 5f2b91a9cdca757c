import DelimiterScan.Options
import Mathlib.Data.List.Forall2

/-!
# What a plan looks for

A plan is made if every delimiter and every stop resolves, and then it looks for what they become
one by one, in the same order.
-/

namespace DelimiterScan

/-- A list of results is one result for each entry. -/
theorem mapM_eq_ok_iff {α β ε : Type} {f : α → Except ε β} {xs : List α} {ys : List β} :
    xs.mapM f = .ok ys ↔ List.Forall₂ (fun x y => f x = .ok y) xs ys := by
  induction xs generalizing ys with
  | nil =>
    rw [List.mapM_nil, List.forall₂_nil_left_iff]
    exact ⟨fun h => (Except.ok.inj h).symm, fun h => h ▸ rfl⟩
  | cons x xs ih =>
    rw [List.mapM_cons, List.forall₂_cons_left_iff]
    constructor
    · intro h
      cases hx : f x with
      | error e =>
        rw [hx] at h
        cases h
      | ok y =>
        cases hxs : xs.mapM f with
        | error e =>
          rw [hx, hxs] at h
          cases h
        | ok more =>
          rw [hx, hxs] at h
          cases h
          exact ⟨y, more, rfl, ih.mp hxs, rfl⟩
    · rintro ⟨y, more, hx, hmore, rfl⟩
      rw [hx, ih.mpr hmore]
      rfl

/-- What a delimiter becomes where literals are read with some flags, or stay without them. -/
def Delimiter.resolved (flags : Option Regex.Flags) (d : Delimiter) :
    Except ScanError Delimiter :=
  match flags with
  | none => .ok d
  | some flags => d.toPattern flags

def Delimiter.fault? (flags : Option Regex.Flags) (d : Delimiter) : Option ScanError :=
  match d.resolved flags with
  | .error e => some e
  | .ok _ => none

theorem Pattern.invalidPattern_of_compile {source : String} {flags : Regex.Flags} {e : ScanError}
    (h : Pattern.compile source flags = .error e) :
    ∃ source fault, e = .invalidPattern source fault := by
  unfold Pattern.compile at h
  split at h
  · cases h
  · cases h
    exact ⟨_, _, rfl⟩

/-- Literals alone may fail, as sources that do not compile. -/
theorem Delimiter.invalidPattern_of_fault? {flags : Option Regex.Flags} {d : Delimiter}
    {e : ScanError} (h : d.fault? flags = some e) :
    ∃ source fault, e = .invalidPattern source fault := by
  unfold fault? at h
  split at h
  · next e' hresolved =>
    cases h
    cases flags with
    | none => cases hresolved
    | some flags =>
      cases d with
      | literal text =>
        change (Pattern.compile text flags).map Delimiter.pattern = _ at hresolved
        cases hcompile : Pattern.compile text flags with
        | error e' =>
          rw [hcompile] at hresolved
          cases hresolved
          exact Pattern.invalidPattern_of_compile hcompile
        | ok compiled =>
          rw [hcompile] at hresolved
          cases hresolved
      | pattern compiled => cases hresolved
      | predicate p => cases hresolved
  · cases h

/-- Predicates come from predicates. -/
theorem Delimiter.eq_predicate_of_resolved {flags : Option Regex.Flags} {d : Delimiter}
    {p : Predicate} (h : d.resolved flags = .ok (.predicate p)) : d = .predicate p := by
  cases flags with
  | none => exact Except.ok.inj h
  | some flags =>
    cases d with
    | literal text =>
      change (Pattern.compile text flags).map Delimiter.pattern = _ at h
      cases hcompile : Pattern.compile text flags with
      | error e =>
        rw [hcompile] at h
        cases h
      | ok compiled =>
        rw [hcompile] at h
        cases h
    | pattern compiled => exact Except.ok.inj h
    | predicate p' => exact Except.ok.inj h

namespace Plan

variable {flags : Option Regex.Flags} {ds es : List Delimiter}

theorem resolve_eq_mapM (flags : Option Regex.Flags) (ds : List Delimiter) :
    resolve flags ds = ds.mapM (Delimiter.resolved flags) := by
  cases flags with
  | none =>
    have hpure := (List.mapM_pure (m := Except ScanError) (l := ds) (f := id)).symm
    rwa [List.map_id] at hpure
  | some flags => rfl

/-- A list resolves unless one of its delimiters does not, and the first such gives the error. -/
theorem resolve_eq (flags : Option Regex.Flags) (ds : List Delimiter) :
    resolve flags ds =
      match ds.findSome? (Delimiter.fault? flags) with
      | some e => .error e
      | none => .ok (ds.filterMap fun d => (d.resolved flags).toOption) := by
  rw [resolve_eq_mapM]
  induction ds with
  | nil => rfl
  | cons d ds ih =>
    rw [List.mapM_cons, ih, List.findSome?_cons, List.filterMap_cons, Delimiter.fault?]
    cases d.resolved flags with
    | error e => rfl
    | ok d' => cases ds.findSome? (Delimiter.fault? flags) <;> rfl

theorem invalidPattern_of_resolve {e : ScanError} (h : resolve flags ds = .error e) :
    ∃ source fault, e = .invalidPattern source fault := by
  rw [resolve_eq] at h
  split at h
  · next e' hfault =>
    cases h
    obtain ⟨d, -, hd⟩ := List.exists_of_findSome?_eq_some hfault
    exact Delimiter.invalidPattern_of_fault? hd
  · cases h

theorem resolve_eq_ok_iff : resolve flags ds = .ok es ↔
    List.Forall₂ (fun d e => d.resolved flags = .ok e) ds es := by
  rw [resolve_eq_mapM, mapM_eq_ok_iff]

theorem resolve_eq_nil_iff (h : resolve flags ds = .ok es) : es = [] ↔ ds = [] := by
  have hlength := (resolve_eq_ok_iff.mp h).length_eq
  rw [← List.length_eq_zero_iff, ← hlength, List.length_eq_zero_iff]

theorem mem_of_mem_resolve {p : Predicate} (h : resolve flags ds = .ok es)
    (hp : .predicate p ∈ es) : .predicate p ∈ ds := by
  have hrel := resolve_eq_ok_iff.mp h
  clear h
  induction hrel with
  | nil => exact hp
  | cons hd _ ih =>
    rcases List.mem_cons.mp hp with rfl | hp
    · rw [Delimiter.eq_predicate_of_resolved hd]
      exact List.mem_cons_self
    · exact List.mem_cons_of_mem _ (ih hp)

theorem make_eq_ok_iff {options : Options} {delims : List Delimiter} {plan : Plan}
    {measure : Regex.RoomMeasure} :
    Plan.make options delims measure = .ok plan ↔ plan.options = options ∧
      resolve options.useRegex delims measure = .ok plan.delims ∧
      resolve options.useRegex options.stops measure = .ok plan.stops := by
  unfold make
  constructor
  · intro h
    cases hdelims : resolve options.useRegex delims measure with
    | error e => simp [hdelims, bind, Except.bind] at h
    | ok ds =>
      cases hstops : resolve options.useRegex options.stops measure with
      | error e => simp [hdelims, hstops, bind, Except.bind] at h
      | ok ss =>
        have hplan : plan = ⟨options, ds, ss⟩ := by
          simpa [hdelims, hstops, bind, Except.bind, pure, Except.pure, eq_comm] using h
        subst hplan
        exact ⟨rfl, rfl, rfl⟩
  · rintro ⟨rfl, hdelims, hstops⟩
    rw [hdelims, hstops]
    rfl

theorem invalidPattern_of_make {options : Options} {delims : List Delimiter} {e : ScanError}
    (h : Plan.make options delims = .error e) :
    ∃ source fault, e = .invalidPattern source fault := by
  unfold make at h
  cases hdelims : resolve options.useRegex delims with
  | error e' =>
    rw [hdelims] at h
    cases h
    exact invalidPattern_of_resolve hdelims
  | ok ds =>
    cases hstops : resolve options.useRegex options.stops with
    | error e' =>
      rw [hdelims, hstops] at h
      cases h
      exact invalidPattern_of_resolve hstops
    | ok ss =>
      rw [hdelims, hstops] at h
      cases h

end Plan

end DelimiterScan
