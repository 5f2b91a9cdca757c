import DelimiterScan.Text.Quoted

/-!
# Tokens

A token is a piece of the text between two cuts. Comments are kept out of its text and stand
beside it.
-/

namespace DelimiterScan

/-- A piece of text, with the comments that were in it. -/
structure Token where
  text : String := ""
  comments : List String := []
  deriving DecidableEq, Repr, Inhabited

/-- The fragments with `s` at the end of the last one; without a fragment `s` becomes one. -/
def appendToLast (fragments : List String) (s : String) : List String :=
  match fragments with
  | [] => [s]
  | [last] => [last ++ s]
  | fragment :: rest => fragment :: appendToLast rest s

namespace Token

def ofText (text : String) : Token := ⟨text, []⟩

def addText (t : Token) (s : String) : Token := { t with text := t.text ++ s }

def beginComment (t : Token) : Token := { t with comments := t.comments ++ [""] }

def addComment (t : Token) (s : String) : Token :=
  { t with comments := appendToLast t.comments s }

def describe (t : Token) : String :=
  "Token \x7b text: " ++ Text.quote t.text ++ ", comments: " ++ Text.quoteList t.comments ++ " \x7d"

end Token

end DelimiterScan
