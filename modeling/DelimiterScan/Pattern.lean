import DelimiterScan.Error
import DelimiterScan.Regex.Compiled

/-!
# Patterns

A pattern is a regular expression that is meant to match where the scan stands. Its source is set
into a group behind a condition for the start of the text, and searched for in the text ahead.
The source is set in as it is written: one that closes the group itself has alternatives that the
condition does not bind.
-/

namespace DelimiterScan

/-- The source with the condition and the group around it. Where white space does not count, a
line end closes a comment at the end of the source. -/
def Pattern.anchored (source : String) (flags : Regex.Flags) : String :=
  "\\A(?:" ++ source ++ (if flags.ignoreWhitespace then "\n)" else ")")

/-- A compiled pattern. Source and flags determine the rest. -/
structure Pattern where
  source : String
  flags : Regex.Flags
  regex : Regex
  compiles : ∃ measure,
    Regex.compile flags (Pattern.anchored source flags).toList measure = .ok regex

namespace Pattern

def compile (source : String) (flags : Regex.Flags) (measure : Regex.RoomMeasure := .estimate) :
    Except ScanError Pattern :=
  match h : Regex.compile flags (anchored source flags).toList measure with
  | .ok regex => .ok ⟨source, flags, regex, measure, h⟩
  | .error fault => .error (.invalidPattern (anchored source flags) fault)

def find? (p : Pattern) (rest : List Char) : Option (List Char) := p.regex.find? rest

/-- Patterns of the same source and flags are the same. -/
theorem ext {p q : Pattern} (hs : p.source = q.source) (hf : p.flags = q.flags) : p = q := by
  obtain ⟨source, flags, regex, measure, hp⟩ := p
  obtain ⟨_, _, regex', measure', hq⟩ := q
  subst hs hf
  obtain rfl : regex = regex' := Regex.eq_of_compile hp hq
  rfl

def describe (p : Pattern) : String :=
  "Pattern \x7b source: " ++ Text.quote p.source ++ ", flags: " ++ p.flags.describe ++ ", .. \x7d"

end Pattern

end DelimiterScan
