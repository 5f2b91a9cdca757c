import DelimiterScan.Block
import DelimiterScan.Json.Reader
import DelimiterScan.Regex.Flags
import DelimiterScan.Token

/-!
# Blocks, tokens and flags from JSON

Each is an object with all of its fields, every one once; other fields are passed over. An array
of the fields' values in their order does as well.
-/

namespace DelimiterScan.Json

def Value.fields? (names : List String) : Value → Option (List Value)
  | array items => if items.length = names.length then some items else none
  | object fields =>
    if fields.any (·.1.isNone) then none
    else
      names.mapM fun name =>
        match fields.filter (·.1 == some name) with
        | [(_, value)] => some value
        | _ => none
  | _ => none

def Value.text? : Value → Option String
  | string s => s
  | _ => none

def Value.texts? : Value → Option (List String)
  | array items => items.mapM Value.text?
  | _ => none

def Value.truth? : Value → Option Bool
  | bool b => some b
  | _ => none

def block? (text : String) : Option Block := do
  match ← (← Value.ofText? text).fields? ["start", "end"] with
  | [start, finish] => return ⟨← start.text?, ← finish.text?⟩
  | _ => none

def token? (text : String) : Option Token := do
  match ← (← Value.ofText? text).fields? ["text", "comments"] with
  | [text, comments] => return ⟨← text.text?, ← comments.texts?⟩
  | _ => none

def flags? (text : String) : Option Regex.Flags := do
  let names := ["case_insensitive", "multi_line", "dot_matches_new_line", "ignore_whitespace"]
  match ← (← Value.ofText? text).fields? names with
  | [i, m, s, x] => return ⟨← i.truth?, ← m.truth?, ← s.truth?, ← x.truth?⟩
  | _ => none

end DelimiterScan.Json
