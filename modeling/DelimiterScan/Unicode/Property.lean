import DelimiterScan.Unicode.Age
import DelimiterScan.Unicode.BinaryProperty
import DelimiterScan.Unicode.GeneralCategory
import DelimiterScan.Unicode.Script
import DelimiterScan.Unicode.ScriptExtensions
import DelimiterScan.Unicode.Segmentation

/-!
# Properties by name

A property is asked for by one name (`Greek`, `Lu`, `Alphabetic`) or by the names of a property
and of its value (`Script=Greek`). Names are compared loosely: case, blanks, hyphens, underscores
and a leading `is` do not count.
-/

namespace DelimiterScan.Unicode.Property

/-- The name without blanks, hyphens, underscores and characters beyond ASCII, in lower case. -/
def plainName (name : List Char) : List Char :=
  (name.filter fun c => !(c = ' ' || c = '_' || c = '-') && c.toNat < 0x80).map Char.toLower

/-- The form in which names are compared. A leading `is` is dropped, unless only a `c` would be
left: `isc` is the name of another property and not of the category `C`. -/
def looseName (name : List Char) : String :=
  match name with
  | i :: s :: rest =>
    if i.toLower = 'i' ∧ s.toLower = 's' then
      let plain := plainName rest
      if plain = ['c'] then "isc" else String.ofList plain
    else String.ofList (plainName name)
  | _ => String.ofList (plainName name)

def any : RangeSet := .ofText "0-10FFFF"

def assigned : RangeSet :=
  .unions ((GeneralCategory.simpleCategories.filter (!·.names.contains "cn")).map (·.codePoints))

def ascii : RangeSet := .ofText "0-7F"

/-- The code points of a general category, or of one of the three sets that are named like one. -/
def category? (name : String) : Option RangeSet :=
  if name = "any" then some any
  else if name = "assigned" then some assigned
  else if name = "ascii" then some ascii
  else
    (PropertyValue.find? GeneralCategory.simpleCategories name).or
      (PropertyValue.find? GeneralCategory.groupedCategories name)

/-- The code points that were there in the given version of the character set. -/
def presentIn? (version : String) : Option RangeSet :=
  let earlier := ages.takeWhile (!·.names.contains version)
  (PropertyValue.find? ages version).map fun added =>
    .unions (earlier.map (·.codePoints) ++ [added])

/-- The code points meant by one name: a yes-or-no property, a category or a script. -/
def ofName? (name : List Char) : Option RangeSet :=
  let name := looseName name
  (PropertyValue.find? BinaryProperty.all name).or
    ((category? name).or (PropertyValue.find? scripts name))

def ofValue? (property value : List Char) : Option RangeSet :=
  let value := looseName value
  match looseName property with
  | "generalcategory" | "gc" => category? value
  | "script" | "sc" => PropertyValue.find? scripts value
  | "scriptextensions" | "scx" => PropertyValue.find? scriptExtensions value
  | "age" => presentIn? value
  | "graphemeclusterbreak" | "gcb" => PropertyValue.find? graphemeClusterBreaks value
  | "wordbreak" | "wb" => PropertyValue.find? wordBreaks value
  | "sentencebreak" | "sb" => PropertyValue.find? sentenceBreaks value
  | _ => none

end DelimiterScan.Unicode.Property
