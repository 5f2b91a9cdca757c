import DelimiterScan.Unicode.BinaryProperty
import DelimiterScan.Unicode.GeneralCategory

/-!
# Text in visible characters

Text is shown in messages with every character that cannot be seen written as an escape: a few by
a letter (`\t`), the others by their code point (`\u{85}`). A combining mark would join the
character before it; which marks are escaped depends on where the text is shown.
-/

namespace DelimiterScan.Text

/-- Whether the code point shows as a mark of its own on paper; of the blanks only the space
does. -/
def isPrintable (c : Char) : Bool :=
  c = ' ' || !(hidden.any (·.contains c.toNat))
where
  /-- The categories without visible characters. -/
  hidden : List Unicode.RangeSet :=
    [Unicode.GeneralCategory.control, Unicode.GeneralCategory.format,
      Unicode.GeneralCategory.privateUse, Unicode.GeneralCategory.unassigned,
      Unicode.GeneralCategory.lineSeparator, Unicode.GeneralCategory.paragraphSeparator,
      Unicode.GeneralCategory.spaceSeparator]

def joinsPrevious (c : Char) : Bool := Unicode.BinaryProperty.graphemeExtend.contains c.toNat

/-- What is escaped apart from characters that cannot be seen: single quotes, and marks that join
the character before them. -/
structure EscapeRule where
  singleQuotes : Bool
  joining : Bool

def codePointEscape (c : Char) : List Char :=
  ['\\', 'u', '\x7b'] ++ Nat.toDigits 16 c.toNat ++ ['\x7d']

def escapeChar (rule : EscapeRule) (c : Char) : List Char :=
  match c with
  | '\x00' => ['\\', '0']
  | '\t' => ['\\', 't']
  | '\r' => ['\\', 'r']
  | '\n' => ['\\', 'n']
  | '"' => ['\\', '"']
  | '\\' => ['\\', '\\']
  | '\'' => if rule.singleQuotes then ['\\', '\''] else ['\'']
  | c =>
    if (rule.joining && joinsPrevious c) || !isPrintable c then codePointEscape c else [c]

/-- Shows a text inside a message: a mark is escaped only where it has nothing to join. -/
def escape (s : String) : String :=
  match s.toList with
  | [] => ""
  | c :: cs => String.ofList (escapeChar ⟨true, true⟩ c ++ cs.flatMap (escapeChar ⟨true, false⟩))

/-- Shows a text between double quotes: every mark is escaped, single quotes are not. -/
def quote (s : String) : String :=
  String.ofList ('"' :: s.toList.flatMap (escapeChar ⟨false, true⟩) ++ ['"'])

def quoteList (texts : List String) : String :=
  "[" ++ ", ".intercalate (texts.map quote) ++ "]"

end DelimiterScan.Text
