import Storygraph.Unicode.Script
import Storygraph.Pattern.CharSet
import Storygraph.Pattern.Error

/-!
# Character properties in patterns

A property is asked for by the name of a general category, of a script or of one of a few
properties that characters have or lack. These few are being alphabetic, lowercase, uppercase and
white space. The others (`\p{Emoji}`, `\p{Dash}`, `\p{XID_Start}`) are unknown here, and so are ages
and the classes of grapheme, word and sentence breaks: a pattern that asks for one is refused.
Script extensions are answered with the scripts themselves, so U+30FC, which is of no one script,
is not found by `\p{scx=Hira}`.
-/

namespace Storygraph.Pattern

/-- The loose form of a property's name: in lowercase, without blanks, dashes, underscores,
characters outside ASCII, and a leading `is`. -/
def looseName (name : Text) : Text :=
  let kept (t : Text) : Text :=
    Text.asciiLower (t.filter fun c => c.toNat < 128 && c != ' ' && c != '_' && c != '-')
  match Text.asciiLower (name.take 2) with
  | ['i', 's'] =>
    let rest := kept (name.drop 2)
    -- `isc` names a property of its own
    if rest = ['c'] then ['i', 's', 'c'] else rest
  | _ => kept name

def categorySet? (name : Text) : Option CharSet :=
  match String.ofList name with
  | "any" => some .all
  | "assigned" => some (CharSet.compl Unicode.Category.unassigned.contains)
  | "ascii" => some .ascii
  | _ => (Unicode.Category.named? name).map Unicode.inCategories

def binaryProperty? (name : Text) : Option CharSet :=
  match String.ofList name with
  | "alphabetic" | "alpha" => some Unicode.isAlphabetic
  | "lowercase" | "lower" => some Unicode.isLowercase
  | "uppercase" | "upper" => some Unicode.isUppercase
  | "whitespace" | "wspace" | "space" => some isBlank
  | _ => none

def scriptSet? (name : Text) : Option CharSet :=
  (Unicode.Script.named? name).map Unicode.Script.contains

def namedProperty (name : Text) : Except Fault CharSet :=
  match ((binaryProperty? name).or (categorySet? name)).or (scriptSet? name) with
  | some set => .ok set
  | none =>
    if Unicode.Script.withoutCodePoints.any (·.toList == name) then .error .propertyValueUnknown
    else .error .propertyUnknown

def valuedProperty (property value : Text) : Except Fault CharSet :=
  match String.ofList property with
  | "gc" | "generalcategory" | "category" =>
    (categorySet? value).elim (.error .propertyValueUnknown) .ok
  | "sc" | "script" | "scx" | "scriptextensions" =>
    (scriptSet? value).elim (.error .propertyValueUnknown) .ok
  | _ => .error .propertyUnknown

def PropertyQuery.set : PropertyQuery → Except Fault CharSet
  | name text => namedProperty (looseName text)
  | value property text => valuedProperty (looseName property) (looseName text)

end Storygraph.Pattern
