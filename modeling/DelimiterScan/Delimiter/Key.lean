import DelimiterScan.Delimiter

/-!
# Keys of delimiters

A key is what delimiters are compared by: the text of a literal, the source and flags of a
pattern, the identity of a predicate. Keys are ordered, and a set of them is kept as a rising
list, so that two lists of delimiters have the same keys exactly if their sets are equal.
-/

namespace DelimiterScan

namespace Delimiter

/-- What a delimiter is compared by. -/
inductive Key where
  | literal (text : String)
  | pattern (source : String) (flags : Regex.Flags)
  | predicate (identity : Nat)
  deriving DecidableEq, Repr

def key : Delimiter → Key
  | literal text => .literal text
  | pattern p => .pattern p.source p.flags
  | predicate p => .predicate p.identity

/-- Delimiters are equal if their keys are. -/
instance : BEq Delimiter := ⟨fun a b => a.key == b.key⟩

end Delimiter

namespace Delimiter.Key

/-- Literals come before patterns and these before predicates; within a kind the texts are ordered
by characters, then the flags, or the identities. -/
def compare : Key → Key → Ordering
  | .literal s, .literal t => Ord.compare s t
  | .literal _, _ => .lt
  | .pattern _ _, .literal _ => .gt
  | .pattern s f, .pattern t g => (Ord.compare s t).then (Ord.compare f.rank g.rank)
  | .pattern _ _, .predicate _ => .lt
  | .predicate m, .predicate n => Ord.compare m n
  | .predicate _, _ => .gt

end Delimiter.Key

structure KeySet where
  keys : List Delimiter.Key
  deriving DecidableEq

namespace KeySet

def insertKey (k : Delimiter.Key) : List Delimiter.Key → List Delimiter.Key
  | [] => [k]
  | head :: rest =>
    match k.compare head with
    | .lt => k :: head :: rest
    | .eq => head :: rest
    | .gt => head :: insertKey k rest

def ofDelimiters (delims : List Delimiter) : KeySet :=
  ⟨(delims.map Delimiter.key).foldr insertKey []⟩

end KeySet

end DelimiterScan
