import DelimiterScan.Regex.Program

/-!
# Searching a text

A search follows all ways through a program at once, character by character. The ways are kept in
order of preference and no node is kept twice, so that the work for a character is bounded by the
program. A way that ends a match drops all ways that are less preferred.
-/

namespace DelimiterScan.Regex

def isWordAt (unicode : Bool) : Option Char → Bool
  | none => false
  | some c =>
    (if unicode then CharClass.word.unicode else CharClass.word.ascii).contains c.toNat

/-- Whether an edge of a word is there, given which of its sides are inside a word. -/
def WordEdge.holds (edge : WordEdge) (before after : Bool) : Bool :=
  match edge with
  | boundary => before != after
  | noBoundary => before == after
  | start => !before && after
  | finish => before && !after
  | startHalf => !before
  | finishHalf => !after

def Look.holds (condition : Look) (before after : Option Char) : Bool :=
  match condition with
  | textStart => before.isNone
  | textEnd => after.isNone
  | lineStart => before.isNone || before == some '\n'
  | lineEnd => after.isNone || after == some '\n'
  | lineStartReturn =>
    before.isNone || before == some '\n' || (before == some '\r' && after != some '\n')
  | lineEndReturn =>
    after.isNone || after == some '\r' || (after == some '\n' && before != some '\r')
  | word edge unicode => edge.holds (isWordAt unicode before) (isWordAt unicode after)

/-- The ways through a program at one position: the nodes that wait there for a character or end a
match, the least preferred first, and the nodes that have been passed, each marked with the
position. -/
structure Front where
  waiting : List Nat := []
  passed : Array Nat

/-- Follows the nodes of `todo`, the first ones preferred, as far as no character is needed. -/
def Front.follow (nodes : Array Node) (before after : Option Char) (mark : Nat) :
    (fuel : Nat) → Front → (todo : List Nat) → Front
  | 0, front, _ => front
  | _ + 1, front, [] => front
  | fuel + 1, front, i :: todo =>
    if front.passed.getD i 0 = mark then front.follow nodes before after mark fuel todo
    else
      let front := { front with passed := front.passed.setIfInBounds i mark }
      match nodes.getD i .fail with
      | .fail => front.follow nodes before after mark fuel todo
      | .fork first second =>
        front.follow nodes before after mark fuel (first :: second :: todo)
      | .look condition next =>
        if condition.holds before after then
          front.follow nodes before after mark fuel (next :: todo)
        else front.follow nodes before after mark fuel todo
      | _ =>
        { front with waiting := i :: front.waiting }.follow nodes before after mark fuel todo

/-- The nodes that wait in a front, the preferred ones first, up to one that ends a match; and
whether there is one. -/
def Front.cut (nodes : Array Node) : List Nat → List Nat × Bool
  | [] => ([], false)
  | i :: rest =>
    match nodes.getD i .fail with
    | .accept => ([], true)
    | _ =>
      let (waiting, ended) := Front.cut nodes rest
      (i :: waiting, ended)

def takers (nodes : Array Node) (c : Char) (waiting : List Nat) : List Nat :=
  waiting.filterMap fun i =>
    match nodes.getD i .fail with
    | .chars set next => if set.contains c.toNat then some next else none
    | _ => none

/-- Goes on from the nodes `entered` at the position behind `taken` characters. `found` is the
length of the match so far. -/
def Program.run (program : Program) (passed : Array Nat) (before : Option Char) (taken : Nat)
    (found : Option Nat) (entered : List Nat) (text : List Char) : Option Nat :=
  if entered.isEmpty then found
  else
    let nodes := program.nodes
    let fuel := 2 * nodes.size + entered.length + 1
    let front :=
      Front.follow nodes before text.head? (taken + 1) fuel ⟨[], passed⟩ entered
    let (waiting, ended) := Front.cut nodes front.waiting.reverse
    let found := if ended then some taken else found
    match text with
    | [] => found
    | c :: text =>
      program.run front.passed (some c) (taken + 1) found (takers nodes c waiting) text

/-- The length in characters of the preferred match at the beginning of the text; `before` is the
character in front of it. -/
def Program.matchLength? (program : Program) (before : Option Char) (text : List Char) :
    Option Nat :=
  program.run (Array.replicate program.nodes.size 0) before 0 none [program.start] text

def Program.findFrom (program : Program) (before : Option Char) (text : List Char) :
    Option (List Char) :=
  match program.matchLength? before text with
  | some n => some (text.take n)
  | none =>
    match text with
    | [] => none
    | c :: text => program.findFrom (some c) text

end DelimiterScan.Regex
