import DelimiterScan.Proofs.Alike

/-!
# Literals compiled beforehand

A scan that reads literals as sources of patterns is a scan for the patterns themselves. If one of
the sources does not compile, among delimiters or stops, it fails before it looks at the input. Else
it goes as the scan that is given the compiled patterns in place of the literals, and echoes the
literals all the same (`scan_precompiled`). No literal is left to compare, so letter case as an
option makes no difference.
-/

namespace DelimiterScan

variable {flags : Regex.Flags} {options : Options} {ds es delims : List Delimiter} {input : String}

namespace Delimiter

/-- A literal becomes the pattern that its text compiles to; patterns and predicates stay. -/
inductive Compiles (flags : Regex.Flags) : Delimiter → Delimiter → Prop
  | literal {text : String} {p : Pattern} (h : Pattern.compile text flags = .ok p) :
      Compiles flags (.literal text) (.pattern p)
  | pattern (p : Pattern) : Compiles flags (.pattern p) (.pattern p)
  | predicate (p : Predicate) : Compiles flags (.predicate p) (.predicate p)

/-- The text of some literal does not compile. -/
def Uncompilable (flags : Regex.Flags) (ds : List Delimiter) : Prop :=
  ∃ text, .literal text ∈ ds ∧ ∀ p, Pattern.compile text flags ≠ .ok p

theorem compiles_iff {d e : Delimiter} :
    Compiles flags d e ↔ d.resolved (some flags) = .ok e := by
  constructor
  · rintro (h | - | -)
    · exact congrArg (Except.map Delimiter.pattern) h
    · rfl
    · rfl
  · intro h
    cases d with
    | literal text =>
      change (Pattern.compile text flags).map Delimiter.pattern = _ at h
      cases hcompile : Pattern.compile text flags with
      | error fault =>
        rw [hcompile] at h
        cases h
      | ok p =>
        rw [hcompile] at h
        cases h
        exact .literal hcompile
    | pattern p =>
      cases h
      exact .pattern p
    | predicate p =>
      cases h
      exact .predicate p

/-- Where no literal fails to compile, every entry compiles. -/
theorem not_uncompilable_iff :
    ¬ Uncompilable flags ds ↔ ∀ d ∈ ds, ∃ e, Compiles flags d e := by
  constructor
  · intro h d hd
    cases d with
    | literal text =>
      by_contra hnone
      exact h ⟨text, hd, fun p hp => hnone ⟨_, .literal hp⟩⟩
    | pattern p => exact ⟨_, .pattern p⟩
    | predicate p => exact ⟨_, .predicate p⟩
  · rintro h ⟨text, hmem, hfault⟩
    obtain ⟨_, hd⟩ := h _ hmem
    cases hd with
    | literal hp => exact hfault _ hp

/-- A list compiles entry by entry, unless one of its literals does not. -/
theorem exists_compiled_iff :
    (∃ es, List.Forall₂ (Compiles flags) ds es) ↔ ¬ Uncompilable flags ds := by
  rw [not_uncompilable_iff]
  induction ds with
  | nil => exact ⟨fun _ _ h => absurd h List.not_mem_nil, fun _ => ⟨[], .nil⟩⟩
  | cons d ds ih =>
    simp only [List.forall₂_cons_left_iff, List.forall_mem_cons, ← ih]
    constructor
    · rintro ⟨_, e, es, hd, hds, rfl⟩
      exact ⟨⟨e, hd⟩, es, hds⟩
    · rintro ⟨⟨e, hd⟩, es, hds⟩
      exact ⟨_, e, es, hd, hds, rfl⟩

theorem uncompilable_append :
    Uncompilable flags (ds ++ es) ↔ Uncompilable flags ds ∨ Uncompilable flags es := by
  simp only [Uncompilable, List.mem_append, or_and_right, exists_or]

/-- Once compiled, there is no literal left. -/
theorem literal_notMem_of_compiles (h : List.Forall₂ (Compiles flags) ds es) (text : String) :
    .literal text ∉ es := by
  induction h with
  | nil => exact List.not_mem_nil
  | cons hd _ ih =>
    intro hmem
    rcases List.mem_cons.mp hmem with rfl | hmem
    · cases hd
    · exact ih hmem

/-- Letter case is compared for literals alone. -/
theorem firstMatch?_of_no_literal (h : ∀ text, .literal text ∉ ds) (cur : Cursor)
    (buffer : TokenBuffer) (caseInsensitive caseInsensitive' : Bool) :
    firstMatch? ds cur buffer caseInsensitive = firstMatch? ds cur buffer caseInsensitive' := by
  refine findSome?_congr fun d hd => ?_
  cases d with
  | literal text => exact absurd hd (h text)
  | pattern p => rfl
  | predicate p => rfl

end Delimiter

open Delimiter (Compiles Uncompilable)

namespace Plan

theorem resolve_some_eq_ok_iff :
    resolve (some flags) ds = .ok es ↔ List.Forall₂ (Compiles flags) ds es := by
  rw [resolve_eq_ok_iff]
  constructor
  · exact List.Forall₂.imp fun _ _ => Delimiter.compiles_iff.mpr
  · exact List.Forall₂.imp fun _ _ => Delimiter.compiles_iff.mp

variable {plan : Plan}

theorem make_eq_ok_iff_compiles (hregex : options.useRegex = some flags) :
    make options delims = .ok plan ↔ plan.options = options ∧
      List.Forall₂ (Compiles flags) delims plan.delims ∧
      List.Forall₂ (Compiles flags) options.stops plan.stops := by
  rw [make_eq_ok_iff, hregex, resolve_some_eq_ok_iff, resolve_some_eq_ok_iff]

/-- There is a plan unless a literal of the delimiters or stops does not compile. -/
theorem exists_make_iff (hregex : options.useRegex = some flags) :
    (∃ plan, make options delims = .ok plan) ↔
      ¬ Uncompilable flags (delims ++ options.stops) := by
  rw [Delimiter.uncompilable_append, not_or, ← Delimiter.exists_compiled_iff,
    ← Delimiter.exists_compiled_iff]
  constructor
  · rintro ⟨plan, hmake⟩
    obtain ⟨-, hdelims, hstops⟩ := (make_eq_ok_iff_compiles hregex).mp hmake
    exact ⟨⟨_, hdelims⟩, _, hstops⟩
  · rintro ⟨⟨ds, hdelims⟩, ss, hstops⟩
    exact ⟨⟨options, ds, ss⟩, (make_eq_ok_iff_compiles hregex).mpr ⟨rfl, hdelims, hstops⟩⟩

/-- Letter case as an option plays no part in what a plan is made of. -/
theorem make_with_caseInsensitive (options : Options) (delims : List Delimiter) (b : Bool) :
    make { options with caseInsensitive := b } delims =
      (make options delims).map fun plan =>
        { plan with options := { options with caseInsensitive := b } } := by
  unfold make
  dsimp only
  cases resolve options.useRegex delims with
  | error e => rfl
  | ok ds => cases resolve options.useRegex options.stops <;> rfl

/-- Without literals, plans that differ in letter case only find the same matches. -/
theorem alike_with_caseInsensitive (hdelims : ∀ text, .literal text ∉ ds)
    (hstops : ∀ text, .literal text ∉ es) (options : Options) (b : Bool) :
    Alike ⟨{ options with caseInsensitive := b }, ds, es⟩ ⟨options, ds, es⟩ where
  blocks := rfl
  quotes := rfl
  comments := rfl
  limit := rfl
  preserve := rfl
  empty := rfl
  delims cur buffer := Delimiter.firstMatch?_of_no_literal hdelims cur buffer _ _
  stops cur buffer := Delimiter.firstMatch?_of_no_literal hstops cur buffer _ _

/-- A plan that is given what another plan has compiled scans alike. -/
theorem alike_plain (options : Options) (ds ss : List Delimiter) :
    Alike ⟨options, ds, ss⟩ ⟨{ options with useRegex := none, stops := ss }, ds, ss⟩ :=
  ⟨rfl, rfl, rfl, rfl, rfl, rfl, fun _ _ => rfl, fun _ _ => rfl⟩

end Plan

/-! ## Scans -/

/-- The error for a pattern stands for the lack of a plan, whatever the input is. -/
theorem exists_invalidPattern_iff :
    (∃ source fault, scan input options delims = .error (.invalidPattern source fault)) ↔
      ¬ ∃ plan, Plan.make options delims = .ok plan := by
  cases hmake : Plan.make options delims with
  | error e =>
    obtain ⟨source, fault, rfl⟩ := Plan.invalidPattern_of_make hmake
    rw [scan_of_make_error hmake]
    constructor
    · rintro - ⟨plan, h⟩
      cases h
    · exact fun _ => ⟨source, fault, rfl⟩
  | ok plan =>
    constructor
    · rintro ⟨source, fault, h⟩
      rw [scan_of_make hmake, State.verdict] at h
      split at h <;> cases h
    · exact fun h => absurd ⟨plan, rfl⟩ h

theorem sameOutcome_plain {ds ss : List Delimiter} (hregex : options.useRegex = some flags)
    (hdelims : List.Forall₂ (Compiles flags) delims ds)
    (hstops : List.Forall₂ (Compiles flags) options.stops ss) (input : String) :
    SameOutcome (scan input options delims)
      (scan input { options with useRegex := none, stops := ss } ds) := by
  have hmake : Plan.make options delims = .ok ⟨options, ds, ss⟩ :=
    (Plan.make_eq_ok_iff_compiles hregex).mpr ⟨rfl, hdelims, hstops⟩
  have hplain : Plan.make { options with useRegex := none, stops := ss } ds =
      .ok ⟨{ options with useRegex := none, stops := ss }, ds, ss⟩ := rfl
  exact .of_finalState hmake hplain ((Plan.alike_plain options ds ss).finalState input)

theorem sameOutcome_with_caseInsensitive (hregex : options.useRegex = some flags)
    (input : String) (delims : List Delimiter) (b : Bool) :
    SameOutcome (scan input { options with caseInsensitive := b } delims)
      (scan input options delims) := by
  have hmake' := Plan.make_with_caseInsensitive options delims b
  cases hmake : Plan.make options delims with
  | error e =>
    rw [hmake] at hmake'
    rw [scan_of_make_error hmake, scan_of_make_error hmake']
    exact .failed e
  | ok plan =>
    rw [hmake] at hmake'
    obtain ⟨rfl, hdelims, hstops⟩ := (Plan.make_eq_ok_iff_compiles hregex).mp hmake
    have halike := Plan.alike_with_caseInsensitive (Delimiter.literal_notMem_of_compiles hdelims)
      (Delimiter.literal_notMem_of_compiles hstops) plan.options b
    exact .of_finalState hmake' hmake (halike.finalState input)

/-- A scan that reads literals as sources of patterns fails for a pattern exactly if one of them
does not compile, and with the same error for all inputs. Else it has the outcome of the scan
without flags that is given the patterns, but echoes what it was given itself. Letter case as an
option makes no difference to it. A scan that is asked to read patterns keeps the flags that are
there, or has none of them set. -/
theorem scan_precompiled (hregex : options.useRegex = some flags) (delims : List Delimiter) :
    (∀ input, (∃ source fault,
        scan input options delims = .error (.invalidPattern source fault)) ↔
      Uncompilable flags (delims ++ options.stops)) ∧
    (Uncompilable flags (delims ++ options.stops) →
      ∃ e, ∀ input, scan input options delims = .error e) ∧
    (¬ Uncompilable flags (delims ++ options.stops) → ∃ ds ss,
      List.Forall₂ (Compiles flags) delims ds ∧
      List.Forall₂ (Compiles flags) options.stops ss ∧
      ∀ input, SameOutcome (scan input options delims)
        (scan input { options with useRegex := none, stops := ss } ds)) ∧
    (∀ input r, scan input options delims = .ok r → r.delims = delims ∧ r.options = options) ∧
    (∀ input b, SameOutcome (scan input { options with caseInsensitive := b } delims)
      (scan input options delims)) ∧
    (∀ input, regexScan input options delims = scan input options delims) ∧
    (∀ o : Options, o.useRegex = none → ∀ input,
      regexScan input o delims = scan input { o with useRegex := some {} } delims) := by
  have hplan : (∃ plan, Plan.make options delims = .ok plan) ↔
      ¬ Uncompilable flags (delims ++ options.stops) := Plan.exists_make_iff hregex
  refine ⟨fun input => ?_, fun hfault => ?_, fun hcompiles => ?_, fun input r hscan => ?_,
    fun input b => ?_, fun input => ?_, fun o hnone input => ?_⟩
  · rw [exists_invalidPattern_iff, hplan, not_not]
  · cases hmake : Plan.make options delims with
    | error e => exact ⟨e, scan_of_make_error hmake⟩
    | ok plan => exact absurd hfault (hplan.mp ⟨plan, hmake⟩)
  · obtain ⟨plan, hmake⟩ := hplan.mpr hcompiles
    obtain ⟨-, hdelims, hstops⟩ := (Plan.make_eq_ok_iff_compiles hregex).mp hmake
    exact ⟨_, _, hdelims, hstops, sameOutcome_plain hregex hdelims hstops⟩
  · obtain ⟨plan, -, rfl⟩ := exists_plan_of_scan hscan
    exact ⟨rfl, rfl⟩
  · exact sameOutcome_with_caseInsensitive hregex input delims b
  · have hwith : options.withRegex = options := by
      rw [Options.withRegex, hregex, Option.getD_some, ← hregex]
    rw [regexScan, hwith]
  · rw [regexScan, Options.withRegex, hnone]
    rfl

/-- White space does not count in literals, and semicolons stop the scan. -/
def spacedOut : Options := { stops := [" ; + "], useRegex := some { ignoreWhitespace := true } }

def groupLeftOpen : Options := { stops := ["("], useRegex := some {} }

/-- Commas in a row are one match; a stop that does not compile fails before an open block does. -/
theorem scan_commas_precompiled :
    spacedOut.useRegex = some { ignoreWhitespace := true } ∧ groupLeftOpen.useRegex = some {} ∧
    (∃ ds ss, List.Forall₂ (Compiles { ignoreWhitespace := true }) [.literal " , + "] ds ∧
      List.Forall₂ (Compiles { ignoreWhitespace := true }) spacedOut.stops ss ∧
      SameOutcome (scan "a,,b;; c" spacedOut [.literal " , + "])
        (scan "a,,b;; c" { spacedOut with useRegex := none, stops := ss } ds)) ∧
    (scan "a,,b;; c" spacedOut [.literal " , + "]).toOption.map (·.texts) = some ["a", "b"] ∧
    ∃ source fault, scan "(a" groupLeftOpen [.literal ","] =
      .error (.invalidPattern source fault) := by
  have hspaced : spacedOut.useRegex = some { ignoreWhitespace := true } := rfl
  have hleft : groupLeftOpen.useRegex = some {} := rfl
  have hcompiles : ¬ Uncompilable { ignoreWhitespace := true }
      ([.literal " , + "] ++ spacedOut.stops) :=
    Delimiter.exists_compiled_iff.mp ⟨_, .cons (.literal rfl) (.cons (.literal rfl) .nil)⟩
  have hfault : Uncompilable {} ([.literal ","] ++ groupLeftOpen.stops) := by
    refine ⟨"(", by simp [groupLeftOpen], fun p hp => ?_⟩
    cases hp
  obtain ⟨-, -, hplain, -⟩ := scan_precompiled hspaced [.literal " , + "]
  obtain ⟨ds, ss, hdelims, hstops, hsame⟩ := hplain hcompiles
  obtain ⟨hinvalid, -⟩ := scan_precompiled hleft [.literal ","]
  exact ⟨hspaced, hleft, ⟨ds, ss, hdelims, hstops, hsame _⟩, by decide +kernel,
    (hinvalid _).mpr hfault⟩

end DelimiterScan
