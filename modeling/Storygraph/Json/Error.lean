import Storygraph.Text.Quoted
import Storygraph.Numeric.Shortest

/-!
# Errors in JSON texts

Why a JSON text is refused, and the place in it. Lines are counted from one, and a column is a
number of bytes since the last line feed.
-/

namespace Storygraph.Json

inductive Found where
  | null
  | bool (b : Bool)
  | natural (n : Nat)
  /-- The negative of a natural number. -/
  | negative (n : Nat)
  /-- A number that is not whole, or out of range; `below` if it has a minus sign. -/
  | fraction (below : Bool) (x : Binary64)
  | text (t : Text)
  | list
  | record
deriving DecidableEq, Repr

namespace Found

def message : Found → Text
  | null => "null".toList
  | bool b => (if b then "boolean `true`" else "boolean `false`").toList
  | natural n => "integer `".toList ++ Text.ofNat n ++ "`".toList
  | negative n => "integer `-".toList ++ Text.ofNat n ++ "`".toList
  | fraction below x => "floating point `".toList ++ x.toText below ++ "`".toList
  | text t => "string ".toList ++ Text.quoted t
  | list => "sequence".toList
  | record => "map".toList

end Found

inductive Fault where
  | endInValue | endInRecord | endInList | endInText
  | expectedValue | expectedIdent | expectedColon | expectedListComma | expectedRecordComma
  | trailingComma | trailingCharacters | keyNotText
  | invalidNumber | numberOutOfRange
  | invalidEscape | unpairedEscape | loneSurrogate | controlCharacter
  | tooDeep
  | wrongType (found : Found) (wanted : String)
  | wrongValue (found : Found) (wanted : String)
  | missingField (key : String)
  | duplicateField (key : String)
  | wrongLength (length : Nat) (wanted : Text)
  | unknownVariant (name : Text) (known : List String)
  | refused (message : Text)
deriving DecidableEq, Repr

namespace Fault

def message : Fault → Text
  | endInValue => "EOF while parsing a value".toList
  | endInRecord => "EOF while parsing an object".toList
  | endInList => "EOF while parsing a list".toList
  | endInText => "EOF while parsing a string".toList
  | expectedValue => "expected value".toList
  | expectedIdent => "expected ident".toList
  | expectedColon => "expected `:`".toList
  | expectedListComma => "expected `,` or `]`".toList
  | expectedRecordComma => "expected `,` or `\x7d`".toList
  | trailingComma => "trailing comma".toList
  | trailingCharacters => "trailing characters".toList
  | keyNotText => "key must be a string".toList
  | invalidNumber => "invalid number".toList
  | numberOutOfRange => "number out of range".toList
  | invalidEscape => "invalid escape".toList
  | unpairedEscape => "unexpected end of hex escape".toList
  | loneSurrogate => "lone leading surrogate in hex escape".toList
  | controlCharacter =>
    "control character (\\u0000-\\u001F) found while parsing a string".toList
  | tooDeep => "recursion limit exceeded".toList
  | wrongType found wanted =>
    "invalid type: ".toList ++ found.message ++ ", expected ".toList ++ wanted.toList
  | wrongValue found wanted =>
    "invalid value: ".toList ++ found.message ++ ", expected ".toList ++ wanted.toList
  | missingField key => "missing field `".toList ++ key.toList ++ "`".toList
  | duplicateField key => "duplicate field `".toList ++ key.toList ++ "`".toList
  | wrongLength length wanted =>
    "invalid length ".toList ++ Text.ofNat length ++ ", expected ".toList ++ wanted
  | unknownVariant name known =>
    "unknown variant `".toList ++ name ++ "`, expected one of ".toList ++
      Text.join ", ".toList (known.map fun k => ('`' :: k.toList) ++ ['`'])
  | refused message => message

end Fault

structure Place where
  line : Nat
  column : Nat
deriving DecidableEq, Repr

structure Error where
  fault : Fault
  place : Place
deriving DecidableEq, Repr

def Error.message (e : Error) : Text :=
  e.fault.message ++ " at line ".toList ++ Text.ofNat e.place.line ++ " column ".toList ++
    Text.ofNat e.place.column

end Storygraph.Json
