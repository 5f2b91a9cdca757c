import DelimiterScan.Regex.Search
import DelimiterScan.Regex.Source.Body

/-!
# Compiled patterns

The source of a pattern is read, refused if it would take too much room, and made into a program.
How much room it takes is told by a measure, which has no part in the program (`eq_of_compile`).
-/

namespace DelimiterScan

open DelimiterScan.Regex

structure Regex where
  expr : Regex.Expr
  program : Regex.Program

namespace Regex

/-- The greatest room that a compiled pattern may take, in bytes. -/
def greatestRoom : Nat := 10 * 1024 * 1024

def compile (flags : Flags) (source : List Char) (measure : RoomMeasure := .estimate) :
    Except Fault Regex := do
  let expr ← Source.read flags source
  if greatestRoom < measure.room expr then .error .tooBig else .ok ⟨expr, .ofExpr expr⟩

theorem compile_eq_ok_iff {flags : Flags} {source : List Char} {measure : RoomMeasure}
    {regex : Regex} : compile flags source measure = .ok regex ↔
      ∃ e, Source.read flags source = .ok e ∧ measure.room e ≤ greatestRoom ∧
        regex = ⟨e, .ofExpr e⟩ := by
  unfold compile
  rw [guarded_eq_ok_iff]
  simp only [Nat.not_lt]

/-- Whatever measure lets a source pass, it is compiled to the same. -/
theorem eq_of_compile {flags : Flags} {source : List Char} {measure measure' : RoomMeasure}
    {regex regex' : Regex} (h : compile flags source measure = .ok regex)
    (h' : compile flags source measure' = .ok regex') : regex = regex' := by
  obtain ⟨e, hread, -, rfl⟩ := compile_eq_ok_iff.mp h
  obtain ⟨e', hread', -, rfl⟩ := compile_eq_ok_iff.mp h'
  obtain rfl : e = e' := Except.ok.inj (hread.symm.trans hread')
  rfl

/-- The text of the preferred match that begins first. Where a match can begin at the start of the
text alone, no other place is tried. -/
def find? (regex : Regex) (text : List Char) : Option (List Char) :=
  if regex.expr.startsAtText then
    (regex.program.matchLength? none text).map text.take
  else regex.program.findFrom none text

end Regex

end DelimiterScan
