import DelimiterScan.Cursor
import DelimiterScan.Pattern
import DelimiterScan.Text.Lowercase
import DelimiterScan.TokenBuffer

/-!
# Delimiters

A delimiter tells whether the text can be cut where the scan stands, and what the text of the
match is: a literal text, a pattern, or a predicate that is given all there is to see.
-/

namespace DelimiterScan

/-- A test by a function, which sees the text before the scan, the text ahead, and the tokens so
far. Predicates are told apart by their identity. -/
structure Predicate where
  identity : Nat
  test : String → String → Array Token → Option String

/-- What a text can be cut at. -/
inductive Delimiter where
  | literal (text : String)
  | pattern (pattern : Pattern)
  | predicate (predicate : Predicate)

namespace Delimiter

instance : Coe String Delimiter := ⟨literal⟩

instance : Coe Pattern Delimiter := ⟨pattern⟩

/-- Whether a literal stands at the beginning of the text ahead. The text compared with it has
its length in bytes, also where case does not count. -/
def literalStandsAt (text : String) (rest : List Char) (caseInsensitive : Bool) : Bool :=
  match Text.takeBytes? text.utf8ByteSize rest with
  | none => false
  | some candidate =>
    if caseInsensitive then Text.lowercase candidate = Text.lowercase text.toList
    else candidate = text.toList

/-- The text of the match where the scan stands; that of a literal is the literal itself. -/
def match? (d : Delimiter) (cur : Cursor) (buffer : TokenBuffer) (caseInsensitive : Bool) :
    Option String :=
  match d with
  | literal text => if literalStandsAt text cur.rest caseInsensitive then some text else none
  | pattern p => (p.find? cur.rest).map String.ofList
  | predicate p => p.test cur.before (String.ofList cur.rest) buffer.tokens

def firstMatch? (delims : List Delimiter) (cur : Cursor) (buffer : TokenBuffer)
    (caseInsensitive : Bool) : Option String :=
  delims.findSome? (·.match? cur buffer caseInsensitive)

def toPattern (flags : Regex.Flags) (d : Delimiter) (measure : Regex.RoomMeasure := .estimate) :
    Except ScanError Delimiter :=
  match d with
  | literal text => (Pattern.compile text flags measure).map pattern
  | d => .ok d

def describe : Delimiter → String
  | literal text => "Literal(" ++ Text.quote text ++ ")"
  | pattern p => "Pattern(" ++ p.describe ++ ")"
  | predicate _ => "Predicate(..)"

end Delimiter

end DelimiterScan
