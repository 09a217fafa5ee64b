import Storygraph.Json.Number
import Storygraph.Json.Skip

/-!
# Reading values of known types

Texts, natural numbers, lists and records. A record is written with named members, of which
unknown ones are passed over, or as the list of its fields in order.
-/

namespace Storygraph.Json.Reader

variable {α σ : Type}

def failType (wanted : String) : Reader α := do
  let refuse (found : Found) : Reader α := failHere (.wrongType found wanted)
  match ← peek? with
  | some 'n' => advance; readWord "ull".toList; refuse .null
  | some 't' => advance; readWord "rue".toList; refuse (.bool true)
  | some 'f' => advance; readWord "alse".toList; refuse (.bool false)
  | some '"' => advance; refuse (.text (← readText))
  | some '[' => refuse .list
  | some '\x7b' => refuse .record
  | some c =>
    if c = '-' || isAsciiDigit c then refuse (← readNumber).found else failAhead .expectedValue
  | none => failAhead .expectedValue

def startOfValue : Reader Char := do
  match ← token? with
  | some c => return c
  | none => failAhead .endInValue

def text : Reader Text := do
  if (← startOfValue) = '"' then
    advance
    readText
  else failType "a string"

def natural : Reader Nat := do
  let c ← startOfValue
  if c = '-' || isAsciiDigit c then
    match ← readNumber with
    | .natural n => return n
    | .negative n => failHere (.wrongValue (.negative n) "usize")
    | .fraction below x => failHere (.wrongType (.fraction below x) "usize")
  else failType "usize"

def unit : Reader Unit := do
  if (← startOfValue) = 'n' then
    advance
    readWord "ull".toList
  else failType "unit"

/-- Moves past the end of a list, as far as it is there. -/
def leaveList : Reader Unit := do
  match ← token? with
  | some ']' => advance
  | some ',' =>
    advance
    if (← token?) = some ']' then failAhead .trailingComma else failAhead .trailingCharacters
  | some _ => failAhead .trailingCharacters
  | none => failAhead .endInList

def afterList (s : Source) : Source :=
  let s := s.skipSpace
  match s.rest.head? with
  | some ']' => s.next
  | some ',' => s.next.skipSpace
  | _ => s

/-- Moves past the end of a record, if it is there. -/
def leaveRecord : Reader Unit := do
  match ← token? with
  | some '\x7d' => advance
  | some ',' => failAhead .trailingComma
  | some _ => failAhead .trailingCharacters
  | none => failAhead .endInRecord

def afterRecord (s : Source) : Source :=
  let s := s.skipSpace
  if s.rest.head? = some '\x7d' then s.next else s

/-- Reads the inside of a list or record and leaves it. A fault without a place gets the one where
leaving stops. -/
def within (leave : Reader Unit) (after : Source → Source) (inside : Reader α) : Reader α :=
  fun s =>
    match inside s with
    | .ok (a, s) => (leave s).map fun ((), s) => (a, s)
    | .error (.placed e) => .error (.placed e)
    | .error (.floating fault s) => .error (.placed ⟨fault, (after s).place⟩)

/-- Moves to the next item of a list; `false` at its end. -/
def nextItem (atFirst : Bool) : Reader Bool := do
  match ← token? with
  | none => failAhead .endInList
  | some ']' => return false
  | some c =>
    if atFirst then return true
    else if c = ',' then
      advance
      match ← token? with
      | none => failAhead .endInValue
      | some ']' => failAhead .trailingComma
      | some _ => return true
    else failAhead .expectedListComma

def items (read : Reader α) : (fuel : Nat) → (atFirst : Bool) → Reader (List α)
  | 0, _ => return []
  | fuel + 1, atFirst => do
    if ← nextItem atFirst then
      let a ← read
      return a :: (← items read fuel false)
    else return []

def list (read : Reader α) : Reader (List α) := do
  if (← startOfValue) = '[' then
    advance
    within leaveList afterList (items read ((← size) + 1) true)
  else failType "a sequence"

/-- A field of a record that is read into a state of type `σ`. -/
structure Field (σ : Type) where
  key : String
  /-- Whether the field may be left out at the end of a list. -/
  optional : Bool
  /-- Whether the field has been read. -/
  isRead : σ → Bool
  read : σ → Reader σ

/-- How a record is read: the name of its type, its fields in order, the state before any is
read, and the value at the end. -/
structure Shape (σ α : Type) where
  name : String
  fields : List (Field σ)
  start : σ
  finish : σ → Except Fault α

def Shape.tooShort (shape : Shape σ α) (length : Nat) : Fault :=
  .wrongLength length <|
    shape.name.toList ++ " with ".toList ++ Text.ofNat shape.fields.length ++ " elements".toList

def fieldsInOrder (shape : Shape σ α) : (index : Nat) → List (Field σ) → σ → Reader σ
  | _, [], st => return st
  | index, field :: rest, st => do
    if ← nextItem (index == 0) then fieldsInOrder shape (index + 1) rest (← field.read st)
    else if field.optional then fieldsInOrder shape (index + 1) rest st
    else failAround (shape.tooShort index)

/-- Moves to the next key of a record, and past its quotation mark; `false` at the end of the
record. -/
def nextKey (atFirst : Bool) : Reader Bool := do
  match ← token? with
  | none => failAhead .endInRecord
  | some '\x7d' => return false
  | some c =>
    if atFirst then
      if c = '"' then advance else failAhead .keyNotText
    else if c = ',' then
      advance
      match ← token? with
      | some '"' => advance
      | some '\x7d' => failAhead .trailingComma
      | some _ => failAhead .keyNotText
      | none => failAhead .endInValue
    else failAhead .expectedRecordComma
    return true

def colon : Reader Unit := do
  match ← token? with
  | some ':' => advance
  | some _ => failAhead .expectedColon
  | none => failAhead .endInRecord

def members (fields : List (Field σ)) : (fuel : Nat) → (atFirst : Bool) → σ → Reader σ
  | 0, _, st => return st
  | fuel + 1, atFirst, st => do
    if ← nextKey atFirst then
      let key ← readText
      match fields.find? (·.key.toList == key) with
      | some field =>
        if field.isRead st then failAround (.duplicateField field.key)
        else
          colon
          members fields fuel false (← field.read st)
      | none =>
        colon
        skipValue
        members fields fuel false st
    else return st

/-- The value of a record whose fields have been read. -/
def Shape.value (shape : Shape σ α) (st : σ) : Reader α :=
  match shape.finish st with
  | .ok a => pure a
  | .error fault => failAround fault

def record (shape : Shape σ α) : Reader α := do
  match ← startOfValue with
  | '[' =>
    advance
    within leaveList afterList do
      shape.value (← fieldsInOrder shape 0 shape.fields shape.start)
  | '\x7b' =>
    advance
    within leaveRecord afterRecord do
      shape.value (← members shape.fields ((← size) + 1) true shape.start)
  | _ => failType shape.name

def run (read : Reader α) (t : Text) : Except Error α :=
  let whole : Reader α := do
    let a ← read
    if (← token?).isSome then failAhead .trailingCharacters else return a
  match whole (.start t) with
  | .ok (a, _) => .ok a
  | .error (.placed e) => .error e
  | .error (.floating fault s) => .error ⟨fault, s.place⟩

end Storygraph.Json.Reader
