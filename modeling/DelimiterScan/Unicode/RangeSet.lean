/-!
# Sets of code points

A property of the character set is given as closed ranges of code points in rising order. The
tables write them as text, `41-5A AA` for the range from 41 to 5A and the code point AA, all in
hexadecimal. A property with more values than two has a table of them (`PropertyValue`).
-/

namespace DelimiterScan

def Text.hexValue? (c : Char) : Option Nat :=
  if '0' ≤ c ∧ c ≤ '9' then some (c.toNat - '0'.toNat)
  else if 'a' ≤ c ∧ c ≤ 'f' then some (c.toNat - 'a'.toNat + 10)
  else if 'A' ≤ c ∧ c ≤ 'F' then some (c.toNat - 'A'.toNat + 10)
  else none

namespace Unicode

/-- A set of code points, as closed ranges in rising order. -/
structure RangeSet where
  ranges : Array (Nat × Nat)

namespace RangeSet

/-! ## The written form -/

/-- What has been read of the written form: the finished ranges, the lower end of the range being
read, once its hyphen is behind, and the digits since. -/
structure Reading where
  done : Array (Nat × Nat) := #[]
  lower : Option Nat := none
  digits : Option Nat := none

def Reading.close (r : Reading) : Reading :=
  match r.digits with
  | none => r
  | some n => { done := r.done.push (r.lower.getD n, n) }

/-- Reads one character: a digit goes on, a hyphen parts the ends, all else ends the range. -/
def Reading.push (r : Reading) (c : Char) : Reading :=
  match Text.hexValue? c with
  | some d => { r with digits := some (16 * r.digits.getD 0 + d) }
  | none => if c = '-' then { r with lower := r.digits, digits := none } else r.close

def ofText (text : String) : RangeSet :=
  ⟨(text.toList.foldl Reading.push {}).close.done⟩

/-! ## Membership -/

/-- Halves `[low, high)` until entry `low` of a rising table is the last that starts at or below
`n`. -/
def locate (start : Nat → Nat) (n : Nat) : (fuel low high : Nat) → Nat
  | 0, low, _ => low
  | fuel + 1, low, high =>
    if high ≤ low + 1 then low
    else
      let middle := (low + high) / 2
      if start middle ≤ n then locate start n fuel middle high
      else locate start n fuel low middle

def contains (s : RangeSet) (n : Nat) : Bool :=
  let start i := (s.ranges.getD i (0, 0)).1
  match s.ranges[locate start n (s.ranges.size.log2 + 1) 0 s.ranges.size]? with
  | none => false
  | some (low, high) => low ≤ n && n ≤ high

/-! ## Set operations -/

/-- Joins to `r` the ranges that overlap or touch it, and those behind it to each other; the
ranges come by rising lower end. -/
def joinRanges (r : Nat × Nat) : List (Nat × Nat) → List (Nat × Nat)
  | [] => [r]
  | next :: rest =>
    if next.1 ≤ r.2 + 1 then joinRanges (r.1, max r.2 next.2) rest
    else r :: joinRanges next rest

/-- The set of the given ranges, in any order. -/
def ofRanges (ranges : List (Nat × Nat)) : RangeSet :=
  match ranges.mergeSort fun a b => a.1 ≤ b.1 with
  | [] => ⟨#[]⟩
  | r :: rest => ⟨(joinRanges r rest).toArray⟩

def range (low high : Char) : RangeSet := ⟨#[(low.toNat, high.toNat)]⟩

def single (c : Char) : RangeSet := range c c

def empty : RangeSet := ⟨#[]⟩

def unions (sets : List RangeSet) : RangeSet := ofRanges (sets.flatMap (·.ranges.toList))

def union (s t : RangeSet) : RangeSet := unions [s, t]

/-- The ranges from `low` on that the given ones leave out. -/
def gaps (low : Nat) : List (Nat × Nat) → List (Nat × Nat)
  | [] => if low ≤ 0x10FFFF then [(low, 0x10FFFF)] else []
  | r :: rest => if low < r.1 then (low, r.1 - 1) :: gaps (r.2 + 1) rest else gaps (r.2 + 1) rest

def complement (s : RangeSet) : RangeSet := ⟨(gaps 0 s.ranges.toList).toArray⟩

def intersection (s t : RangeSet) : RangeSet := (union s.complement t.complement).complement

def difference (s t : RangeSet) : RangeSet := intersection s t.complement

def symmetricDifference (s t : RangeSet) : RangeSet := union (difference s t) (difference t s)

def isAscii (s : RangeSet) : Bool := s.ranges.all (·.2 < 0x80)

end RangeSet

/-! ## Values of a property -/

/-- A value of a property: the code points that have it, and the names that it may be asked for by,
in the form that ignores case, blanks, hyphens and underscores. -/
structure PropertyValue where
  names : List String
  codePoints : RangeSet

def PropertyValue.find? (table : List PropertyValue) (name : String) : Option RangeSet :=
  (table.find? (·.names.contains name)).map (·.codePoints)

end Unicode

end DelimiterScan
