import DelimiterScan.Regex.Expr

/-!
# Programs

An expression is compiled to a table of nodes that name each other by index. Each node is built
for a given successor, so an expression is laid out from its end to its beginning. Of the two ways
out of a fork the first is preferred.
-/

namespace DelimiterScan.Regex

open DelimiterScan.Unicode (RangeSet)

inductive Node where
  /-- The end of a match. -/
  | accept
  /-- A dead end. -/
  | fail
  /-- Takes a character of the set. -/
  | chars (set : RangeSet) (next : Nat)
  /-- Goes on where the condition holds. -/
  | look (condition : Look) (next : Nat)
  /-- Goes on both ways, rather the first. -/
  | fork (first second : Nat)

instance : Inhabited Node := ⟨.fail⟩

/-- A table of nodes and the one to begin at. -/
structure Program where
  nodes : Array Node
  start : Nat

namespace Program

/-- Builds nodes for a successor: gives the index to enter at, and the table with the nodes. -/
abbrev Builder := Nat → Array Node → Nat × Array Node

/-- A fork to `inside` and `outside`, that prefers to go inside if it is greedy. -/
def forkTo (greedy : Bool) (inside outside : Nat) : Node :=
  if greedy then .fork inside outside else .fork outside inside

def copies (body : Builder) : Nat → Builder
  | 0, next, nodes => (next, nodes)
  | n + 1, next, nodes =>
    let (next, nodes) := body next nodes
    copies body n next nodes

/-- As many as `n` copies of `body`, with a way out before each of them. -/
def optionalCopies (body : Builder) (greedy : Bool) (exit : Nat) : Nat → Builder
  | 0, next, nodes => (next, nodes)
  | n + 1, next, nodes =>
    let (inside, nodes) := body next nodes
    optionalCopies body greedy exit n nodes.size (nodes.push (forkTo greedy inside exit))

/-- Copies of `body` without an end, but at least one. The fork behind a copy leads back. -/
def loop (body : Builder) (greedy : Bool) : Builder := fun next nodes =>
  let turn := nodes.size
  let (inside, nodes) := body turn (nodes.push .fail)
  (inside, nodes.setIfInBounds turn (forkTo greedy inside next))

/-- The nodes of an expression. A repetition that may be left out and has no end is a loop behind
a fork, so that passing through an empty copy keeps the order of preference. -/
def build : Expr → Builder
  | .empty, next, nodes => (next, nodes)
  | .chars set, next, nodes => (nodes.size, nodes.push (.chars set next))
  | .look condition, next, nodes => (nodes.size, nodes.push (.look condition next))
  | .concat a b, next, nodes =>
    let (middle, nodes) := build b next nodes
    build a middle nodes
  | .alternate a b, next, nodes =>
    let (second, nodes) := build b next nodes
    let (first, nodes) := build a next nodes
    (nodes.size, nodes.push (.fork first second))
  | .repeated e least none greedy, next, nodes =>
    let (inside, nodes) := loop (build e) greedy next nodes
    if least = 0 then (nodes.size, nodes.push (forkTo greedy inside next))
    else copies (build e) (least - 1) inside nodes
  | .repeated e least (some greatest) greedy, next, nodes =>
    let (inside, nodes) := optionalCopies (build e) greedy next (greatest - least) next nodes
    copies (build e) least inside nodes

def ofExpr (e : Expr) : Program :=
  let (start, nodes) := build e 0 #[.accept]
  ⟨nodes, start⟩

end Program

end DelimiterScan.Regex
