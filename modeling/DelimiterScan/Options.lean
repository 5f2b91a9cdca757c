import DelimiterScan.Delimiter.Key

/-!
# Options and plans of a scan

The tables of markers, how often the text may be cut, where the scan stops, and how delimiters are
compared. The fingerprint is the part of the options that a result depends on.

Before a scan looks at its input, literals are compiled where they are meant as sources of
patterns: first the delimiters, then the stops. This makes a plan.
-/

namespace DelimiterScan

structure Options where
  blocks : List Block := Block.defaultBlocks
  quotes : List String := Block.defaultQuotes
  comments : List Block := Block.defaultComments
  /-- The greatest number of cuts. -/
  limit : Option Nat := none
  /-- What ends the scan outside of every block. -/
  stops : List Delimiter := []
  /-- Leaves the matched text at the end of the token before the cut. -/
  preserveDelimiters : Bool := false
  /-- Reads literals as sources of patterns with these flags. -/
  useRegex : Option Regex.Flags := none
  caseInsensitive : Bool := false
  /-- Lets results be taken from a cache and put into it. -/
  cache : Bool := true
  deriving BEq

namespace Options

/-- Reads literals as patterns; flags that are there already stay. -/
def withRegex (o : Options) : Options :=
  { o with useRegex := some (o.useRegex.getD {}) }

/-- The part of the options that a result depends on; stops count by their keys. -/
structure Fingerprint where
  blocks : List Block
  quotes : List String
  comments : List Block
  limit : Option Nat
  stops : List Delimiter.Key
  preserveDelimiters : Bool
  useRegex : Option Regex.Flags
  caseInsensitive : Bool
  deriving DecidableEq

def fingerprint (o : Options) : Fingerprint where
  blocks := o.blocks
  quotes := o.quotes
  comments := o.comments
  limit := o.limit
  stops := o.stops.map Delimiter.key
  preserveDelimiters := o.preserveDelimiters
  useRegex := o.useRegex
  caseInsensitive := o.caseInsensitive

end Options

/-- The options of a scan, with the delimiters and stops that are looked for. -/
structure Plan where
  options : Options
  delims : List Delimiter
  stops : List Delimiter

namespace Plan

/-- Compiles the literals of a list with the given flags; without flags they stay. -/
def resolve (flags : Option Regex.Flags) (delims : List Delimiter)
    (measure : Regex.RoomMeasure := .estimate) : Except ScanError (List Delimiter) :=
  match flags with
  | none => .ok delims
  | some flags => delims.mapM (·.toPattern flags measure)

def make (options : Options) (delims : List Delimiter)
    (measure : Regex.RoomMeasure := .estimate) : Except ScanError Plan := do
  let delims ← resolve options.useRegex delims measure
  let stops ← resolve options.useRegex options.stops measure
  return ⟨options, delims, stops⟩

end Plan

end DelimiterScan
