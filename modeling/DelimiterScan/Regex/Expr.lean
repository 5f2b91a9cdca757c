import DelimiterScan.Regex.CharClass

/-!
# Regular expressions

What a pattern means once its switches have been applied: sets of characters, conditions on the
position, and the ways to put them together. Earlier alternatives, and longer or shorter
repetitions as asked for, are preferred.
-/

namespace DelimiterScan.Regex

open DelimiterScan.Unicode (RangeSet)

/-- Which sides of a position are looked at for a word boundary, and what is asked of them. -/
inductive WordEdge where
  | boundary
  | noBoundary
  | start
  | finish
  | startHalf
  | finishHalf
  deriving DecidableEq

/-- A condition on a position between two characters. -/
inductive Look where
  | textStart
  | textEnd
  | lineStart
  | lineEnd
  /-- As `lineStart`, but a carriage return ends a line too, alone or before a line feed. -/
  | lineStartReturn
  | lineEndReturn
  | word (edge : WordEdge) (unicode : Bool)
  deriving DecidableEq

inductive Expr where
  | empty
  | chars (set : RangeSet)
  | look (condition : Look)
  | concat (first second : Expr)
  /-- Either of the two, rather the first. -/
  | alternate (first second : Expr)
  /-- As many as `greatest` times, or without an end, but at least `least` times. -/
  | repeated (body : Expr) (least : Nat) (greatest : Option Nat) (greedy : Bool)

namespace Expr

/-- Whether the expression matches at positions only and never takes a character. -/
def takesNothing : Expr → Bool
  | empty => true
  | chars _ => false
  | look _ => true
  | concat a b => a.takesNothing && b.takesNothing
  | alternate a b => a.takesNothing && b.takesNothing
  | repeated e _ greatest _ => e.takesNothing || greatest == some 0

/-- Whether a match can only begin at the start of the text. -/
def startsAtText : Expr → Bool
  | empty => false
  | chars _ => false
  | look condition => condition == .textStart
  | concat a b => a.startsAtText || (a.takesNothing && b.startsAtText)
  | alternate a b => a.startsAtText && b.startsAtText
  | repeated e least _ _ => 0 < least && e.startsAtText

/-- Repeats an expression. To repeat one that takes nothing is to ask for it once or not at
all. -/
def repeatOf (e : Expr) (least : Nat) (greatest : Option Nat) (greedy : Bool) : Expr :=
  let (least, greatest) :=
    if e.takesNothing then (min least 1, some (min (greatest.getD 1) 1)) else (least, greatest)
  if greatest == some 0 then empty
  else if least == 1 && greatest == some 1 then e
  else repeated e least greatest greedy

def sequence : List Expr → Expr
  | [] => empty
  | [e] => e
  | e :: es => concat e (sequence es)

/-- Puts expressions side by side, the preferred ones first. -/
def choice : List Expr → Expr
  | [] => empty
  | [e] => e
  | e :: es => alternate e (choice es)

/-! ## Room

What an expression takes once compiled is up to the engine that compiles it, so that a measure of it
is a parameter of everything that compiles (`RoomMeasure`). Here is an estimate, in bytes. -/

/-- The bytes of memory that one state of a compiled expression takes. -/
def stateRoom : Nat := 32

/-- The estimate for a character set: an ASCII set is one state with a transition for each range,
any other takes a state for each way to spell it in bytes. -/
def setRoom (set : RangeSet) : Nat :=
  match set.ranges.toList with
  | [(low, high)] =>
    if low = high then stateRoom * (Char.ofNat low).utf8Size
    else if high < 0x80 then stateRoom else 8 * stateRoom + 58
  | ranges =>
    if set.isAscii then stateRoom + 8 * ranges.length else 8 * stateRoom + 58 * ranges.length

/-- The estimate for an expression. -/
def room : Expr → Nat
  | empty => stateRoom
  | chars set => setRoom set
  | look _ => stateRoom
  | concat a b => a.room + b.room
  | alternate a b => a.room + b.room + 2 * stateRoom
  | repeated e least none _ => max least 1 * e.room + 2 * stateRoom
  | repeated e least (some greatest) _ =>
    least * e.room + (greatest - least) * (e.room + stateRoom + 8) + stateRoom

end Expr

/-- How much room expressions take once compiled. A condition takes one state, and what is put in a
row takes the room of its parts. -/
structure RoomMeasure where
  room : Expr → Nat
  stateRoom : Nat
  room_look : ∀ condition, room (.look condition) = stateRoom
  room_concat : ∀ a b, room (.concat a b) = room a + room b

/-- The measure that patterns are compiled by unless another one is given. -/
def RoomMeasure.estimate : RoomMeasure where
  room := Expr.room
  stateRoom := Expr.stateRoom
  room_look _ := rfl
  room_concat _ _ := rfl

end DelimiterScan.Regex
