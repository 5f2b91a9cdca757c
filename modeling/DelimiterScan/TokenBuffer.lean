import DelimiterScan.Token

/-!
# Token buffers

A buffer holds the tokens before the last cut, and the token after it once something was written
to it. Nothing but a cut adds to the finished tokens (`finished_modify`, `finished_cut`), so there
is one for each cut.
-/

namespace DelimiterScan

/-- Tokens that are being gathered. -/
structure TokenBuffer where
  /-- The tokens before the last cut. -/
  finished : Array Token := #[]
  /-- The token after the last cut, once something was written to it. -/
  current : Option Token := none
  deriving DecidableEq, Inhabited

namespace TokenBuffer

def tokens (b : TokenBuffer) : Array Token :=
  match b.current with
  | none => b.finished
  | some token => b.finished.push token

/-- Changes the current token, and begins it if there is none. -/
def modify (b : TokenBuffer) (f : Token → Token) : TokenBuffer :=
  { b with current := some (f (b.current.getD {})) }

def ensure (b : TokenBuffer) : TokenBuffer := b.modify id

def cut (b : TokenBuffer) : TokenBuffer := ⟨b.finished.push (b.current.getD {}), none⟩

@[simp] theorem finished_modify (b : TokenBuffer) (f : Token → Token) :
    (b.modify f).finished = b.finished := rfl

@[simp] theorem current_modify (b : TokenBuffer) (f : Token → Token) :
    (b.modify f).current = some (f (b.current.getD {})) := rfl

@[simp] theorem tokens_modify (b : TokenBuffer) (f : Token → Token) :
    (b.modify f).tokens = b.finished.push (f (b.current.getD {})) := rfl

@[simp] theorem finished_cut (b : TokenBuffer) :
    b.cut.finished = b.finished.push (b.current.getD {}) := rfl

@[simp] theorem current_cut (b : TokenBuffer) : b.cut.current = none := rfl

@[simp] theorem tokens_cut (b : TokenBuffer) :
    b.cut.tokens = b.finished.push (b.current.getD {}) := rfl

theorem size_tokens (b : TokenBuffer) :
    b.tokens.size = b.finished.size + if b.current.isSome then 1 else 0 := by
  unfold tokens
  cases b.current <;> simp

end TokenBuffer

end DelimiterScan
