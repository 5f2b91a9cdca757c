/-!
# Faults of a pattern

Why the source of a pattern cannot be compiled. What is read of it is refused where it is nested too
deeply or too big, and used otherwise (`guarded_eq_ok_iff`).
-/

namespace DelimiterScan.Regex

inductive Fault where
  /-- A group is not closed. -/
  | groupUnclosed
  /-- A closing parenthesis closes nothing. -/
  | groupUnopened
  /-- A group looks ahead or behind. -/
  | lookAround
  /-- The name of a group is missing, holds a wrong character, is not finished or not new. -/
  | groupName
  /-- The letters of a group's switches are wrong. -/
  | groupFlags
  /-- A repetition has nothing to repeat. -/
  | repetitionMissing
  /-- The bounds of a repetition are not closed, not there, too large or in the wrong order. -/
  | repetitionBounds
  /-- A backslash stands before nothing, or before a character that has no escape. -/
  | escape
  /-- A backslash stands before a digit. -/
  | backreference
  /-- A character is given by a code that is no code of a character. -/
  | characterCode
  /-- No property has the given name. -/
  | property
  /-- A word boundary of a special kind has a wrong name or none. -/
  | boundary
  /-- A character class is not closed. -/
  | classUnclosed
  /-- A character class holds an escape that stands for no characters. -/
  | classEscape
  /-- An end of a range is no single character, or the ends are in the wrong order. -/
  | classRange
  /-- A property or a character beyond ASCII is used where Unicode is off. -/
  | unicodeOff
  /-- The pattern could match inside a character. -/
  | splitsCharacters
  /-- Groups, repetitions and classes are nested too deeply. -/
  | nesting
  /-- The pattern would take too much room once compiled. -/
  | tooBig
  deriving DecidableEq, Repr

/-- What a reader gives is used unless it is refused. -/
theorem guarded_eq_ok_iff {α β : Type} {x : Except Fault α} {refused : α → Prop}
    [DecidablePred refused] {fault : Fault} {f : α → β} {b : β} :
    (x >>= fun a => if refused a then .error fault else .ok (f a)) = .ok b ↔
      ∃ a, x = .ok a ∧ ¬ refused a ∧ b = f a := by
  cases x with
  | error fault => exact ⟨nofun, fun ⟨_, h, _⟩ => nomatch h⟩
  | ok a =>
    show (if refused a then _ else _) = _ ↔ _
    constructor
    · intro h
      split at h
      · cases h
      · next hkept =>
        cases h
        exact ⟨a, rfl, hkept, rfl⟩
    · rintro ⟨_, ⟨⟩, hkept, rfl⟩
      exact if_neg hkept

end DelimiterScan.Regex
