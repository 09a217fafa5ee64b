import Storygraph.Json.String

/-!
# Passing over JSON values

A value that nothing is wanted of is passed over without limit on its depth. The brackets that
are open stand on a stack.
-/

namespace Storygraph.Json

inductive Bracket where
  | list | record
deriving DecidableEq

namespace Reader

def skipDigits : Reader Unit := fun s => .ok ((), s.skipWhile isAsciiDigit)

def digitNext : Reader Bool := return (← peek?).any isAsciiDigit

def skipExponent : Reader Unit := do
  advance
  if (← peek?) = some '+' || (← peek?) = some '-' then advance
  if ← digitNext then skipDigits else failAhead .invalidNumber

def skipOptionalExponent : Reader Unit := do
  match ← peek? with
  | some 'e' | some 'E' => skipExponent
  | _ => pure ()

def skipNumber : Reader Unit := do
  match ← peek? with
  | some '0' =>
    advance
    if ← digitNext then failAhead .invalidNumber
  | some c => if isAsciiDigit c then skipDigits else failAhead .invalidNumber
  | none => failAhead .invalidNumber
  if (← peek?) = some '.' then
    advance
    if ← digitNext then skipDigits else failAhead .invalidNumber
  skipOptionalExponent

def skipKey : Reader Unit := do
  match ← token? with
  | some '"' => advance
  | some _ => failAhead .keyNotText
  | none => failAhead .endInRecord
  skipText
  match ← token? with
  | some ':' => advance
  | some _ => failAhead .expectedColon
  | none => failAhead .endInRecord

/-- Passes over what begins a value. The answer is the bracket that it opens, if it does not end
there. -/
def skipStart : Reader (Option Bracket) := do
  match ← token? with
  | none => failAhead .endInValue
  | some c =>
    if isAsciiDigit c then
      skipNumber
      return none
    match c with
    | 'n' => advance; readWord "ull".toList; return none
    | 't' => advance; readWord "rue".toList; return none
    | 'f' => advance; readWord "alse".toList; return none
    | '-' => advance; skipNumber; return none
    | '"' => advance; skipText; return none
    | '[' => advance; return some .list
    | '\x7b' => advance; return some .record
    | _ => failAhead .expectedValue

/-- The fault for a text that ends inside a bracket. -/
def endIn : Bracket → Fault
  | .list => .endInList
  | .record => .endInRecord

def expectedComma : Bracket → Fault
  | .list => .expectedListComma
  | .record => .expectedRecordComma

def closing : Bracket → Char
  | .list => ']'
  | .record => '\x7d'

/-- Passes over closing brackets, and the comma after them, up to where the next value or key
begins. `afterValue` tells a place after a value from one after an opening bracket. The answer is
what is still open. -/
def skipClosing (afterValue : Bool) : List Bracket → Reader (List Bracket)
  | [] => return []
  | bracket :: stack => do
    match ← token? with
    | none => failAhead (endIn bracket)
    | some c =>
      if c = closing bracket then
        advance
        skipClosing true stack
      else if !afterValue then return bracket :: stack
      else if c = ',' then
        advance
        return bracket :: stack
      else failAhead (expectedComma bracket)

def skipOpen : (fuel : Nat) → List Bracket → Reader Unit
  | 0, _ => pure ()
  | fuel + 1, stack => do
    if stack.head? = some .record then skipKey
    let opened ← skipStart
    let stack ← match opened with
      | some bracket => skipClosing false (bracket :: stack)
      | none => skipClosing true stack
    if stack.isEmpty then pure () else skipOpen fuel stack

/-- Passes over a value. Each round of the loop takes at least one character. -/
def skipValue : Reader Unit := do
  skipOpen ((← size) + 1) []

end Reader

end Storygraph.Json
