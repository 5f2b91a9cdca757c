import DelimiterScan.Block
import DelimiterScan.Regex.Fault
import DelimiterScan.Text.Utf8

/-!
# Errors of a scan

Why a scan, or the preparation of one, gives no result.
-/

namespace DelimiterScan

inductive ScanError where
  /-- The input is given as bytes that spell no text. -/
  | invalidInput (fault : Text.Utf8.Fault)
  /-- The text ends inside blocks; the outermost one comes first. -/
  | unterminatedBlock (unclosed : List Block)
  /-- The source of a pattern does not compile. -/
  | invalidPattern (source : String) (fault : Regex.Fault)
  /-- A letter is no flag of a pattern. -/
  | invalidFlag (letter : Char)
  deriving DecidableEq

/-- What is wrong, in words; the words for a pattern name its fault alone. -/
def ScanError.message : ScanError → String
  | invalidInput fault => "input is not a valid string: " ++ fault.message
  | unterminatedBlock unclosed =>
    "unterminated blocks: " ++ ", ".intercalate (unclosed.map Block.display)
  | invalidPattern source _ => "invalid delimiter pattern: " ++ Text.quote source
  | invalidFlag letter => "unsupported regex flag '" ++ letter.toString ++ "'"

end DelimiterScan
