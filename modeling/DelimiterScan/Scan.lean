import DelimiterScan.Scan.Step

/-!
# Scans

A scan walks over a text once and cuts it into tokens. It fails if a pattern does not compile or
if the text ends inside a block. As many steps as there are characters are enough
(`Plan.run_of_le`).
-/

namespace DelimiterScan

/-- What a scan gives: its delimiters and options, the tokens with the comments, the matched text
of each cut and where it stands, how deep blocks were nested, and where the scan was stopped. -/
structure ScanResult where
  delims : List Delimiter
  options : Options
  nesting : List Block
  maxDepth : Nat
  comments : List String
  tokens : Array Token
  cuts : Array (Option String)
  cutsAt : Array (Nat × String)
  stop : Option Stop
  deriving BEq

namespace ScanResult

def texts (r : ScanResult) : List String := r.tokens.toList.map (·.text)

end ScanResult

def Plan.run (plan : Plan) : (fuel : Nat) → State → Cursor → State
  | 0, s, _ => s
  | fuel + 1, s, cur =>
    match plan.step s cur with
    | .finished s => s
    | .advanced s cur => plan.run fuel s cur

/-- Steps beyond the number of characters ahead change nothing. -/
theorem Plan.run_of_le {plan : Plan} {n m : Nat} {s : State} {cur : Cursor}
    (hn : cur.rest.length ≤ n) (hm : n ≤ m) : plan.run m s cur = plan.run n s cur := by
  induction n generalizing m s cur with
  | zero =>
    cases m with
    | zero => rfl
    | succ m =>
      have hrest : cur.rest = [] := List.eq_nil_of_length_eq_zero (Nat.le_zero.mp hn)
      simp [run, step, hrest]
  | succ n ih =>
    obtain ⟨m, rfl⟩ : ∃ k, m = k + 1 := ⟨m - 1, by omega⟩
    simp only [run]
    split
    · rfl
    · rename_i hstep
      have := length_rest_of_step hstep
      exact ih (by omega) (by omega)

/-- The state at the end of a text. A step passes a character or more, so that there are no more
steps than characters. -/
def Plan.finalState (plan : Plan) (input : String) : State :=
  (plan.run input.toList.length {} (.ofText input)).ensureToken

/-- Scans a text and cuts it at the delimiters; without delimiters, at blocks. -/
def scan (input : String) (options : Options) (delims : List Delimiter)
    (measure : Regex.RoomMeasure := .estimate) : Except ScanError ScanResult := do
  let plan ← Plan.make options delims measure
  let s := plan.finalState input
  if !s.nesting.isEmpty then .error (.unterminatedBlock s.nesting.reverse)
  else
    return {
      delims, options
      nesting := s.nesting
      maxDepth := s.maxDepth
      comments := s.comments
      tokens := s.buffer.tokens
      cuts := s.cuts
      cutsAt := s.cutsAt
      stop := s.stop }

def regexScan (input : String) (options : Options) (delims : List Delimiter) :
    Except ScanError ScanResult :=
  scan input options.withRegex delims

end DelimiterScan
