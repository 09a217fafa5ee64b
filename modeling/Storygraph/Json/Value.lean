import Storygraph.Json.Basic
import Storygraph.Json.Decode

/-!
# Values of any kind

What a JSON text is read as when nothing is known about its value. The members of a record are
kept in the order of their keys, and of members with the same key only the last counts.
-/

namespace Storygraph

/-- Whether a text comes before another, character by character in the order of code points. -/
def Text.precedes : Text → Text → Bool
  | _, [] => false
  | [], _ :: _ => true
  | c :: s, d :: t => c.toNat < d.toNat || (c == d && precedes s t)

namespace Json

inductive Value where
  | null
  | bool (b : Bool)
  | number (n : Number)
  | text (t : Text)
  | list (items : List Value)
  | record (members : List (Text × Value))

/-- A number as it is written. -/
def Number.toText : Number → Text
  | natural n => Text.ofNat n
  | negative n => '-' :: Text.ofNat n
  | fraction below x => x.toText below

namespace Value

/-- Puts a member among others in the order of keys, in place of one with its key. -/
def insert (key : Text) (value : Value) : List (Text × Value) → List (Text × Value)
  | [] => [(key, value)]
  | (other, found) :: rest =>
    if other.precedes key then (other, found) :: insert key value rest
    else if other = key then (key, value) :: rest
    else (key, value) :: (other, found) :: rest

/-- Parts between brackets, each on a line of its own, two blanks deeper than the brackets. Without
parts the brackets stay on the line. -/
def bracketed (left right : Char) (depth : Nat) (parts : List Text) : Text :=
  if parts = [] then [left, right]
  else
    left :: Text.join [','] (parts.map (newline (depth + 1) ++ ·)) ++ newline depth ++ [right]

mutual

def pretty (depth : Nat) : Value → Text
  | null => "null".toList
  | bool b => (if b then "true" else "false").toList
  | number n => n.toText
  | text t => quote t
  | list items => bracketed '[' ']' depth (prettyItems (depth + 1) items)
  | record members => bracketed '\x7b' '\x7d' depth (prettyMembers (depth + 1) members)

def prettyItems (depth : Nat) : List Value → List Text
  | [] => []
  | item :: rest => pretty depth item :: prettyItems depth rest

def prettyMembers (depth : Nat) : List (Text × Value) → List Text
  | [] => []
  | (key, value) :: rest =>
    (quote key ++ ':' :: ' ' :: pretty depth value) :: prettyMembers depth rest

end

def indented (value : Value) : Text := pretty 0 value

end Value

namespace Reader

/-- Reads the members of a record into those before them. -/
def valueMembers (read : Reader Value) :
    (fuel : Nat) → (atFirst : Bool) → List (Text × Value) → Reader (List (Text × Value))
  | 0, _, members => return members
  | fuel + 1, atFirst, members => do
    if ← nextKey atFirst then
      let key ← readText
      colon
      valueMembers read fuel false (Value.insert key (← read) members)
    else return members

/-- Reads a value, and the values in it by `inner`. Where there is no such reader, no list or record
may be opened. -/
def valueAround (inner : Option (Reader Value)) : Reader Value := do
  match ← startOfValue with
  | 'n' =>
    advance
    readWord "ull".toList
    return .null
  | 't' =>
    advance
    readWord "rue".toList
    return .bool true
  | 'f' =>
    advance
    readWord "alse".toList
    return .bool false
  | '"' =>
    advance
    return .text (← readText)
  | '[' =>
    match inner with
    | none => failAhead .tooDeep
    | some read =>
      advance
      return .list (← within leaveList afterList (items read ((← size) + 1) true))
  | '\x7b' =>
    match inner with
    | none => failAhead .tooDeep
    | some read =>
      advance
      return .record (← within leaveRecord afterRecord (valueMembers read ((← size) + 1) true []))
  | c =>
    if c = '-' || isAsciiDigit c then return .number (← readNumber) else failAhead .expectedValue

/-- Reads a value with at most so many lists and records inside each other. -/
def value : (depth : Nat) → Reader Value
  | 0 => valueAround none
  | depth + 1 => valueAround (some (value depth))

end Reader

/-- How many lists and records a text of a value may open inside each other. -/
def maxDepth : Nat := 127

def Value.ofText (t : Text) : Except Error Value := (Reader.value maxDepth).run t

end Json

end Storygraph
