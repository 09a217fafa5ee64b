import Storygraph.Graph
import Storygraph.Json.Source

/-!
# Reading JSON numbers

Whole numbers within the range of files are exact. A number with a fraction, an exponent or too
many digits is the binary number that rounding its parts gives: the digits are rounded first,
and then multiplied or divided by powers of ten.
-/

namespace Storygraph.Json

/-- The largest number whose negative is read as a whole number. -/
def maxNegative : Nat := 9223372036854775808

inductive Number where
  | natural (n : Nat)
  /-- The negative of a natural number. -/
  | negative (n : Nat)
  /-- A number that is not whole, or out of range; `below` if it has a minus sign. -/
  | fraction (below : Bool) (x : Binary64)

/-- A number as a value found where another type is wanted. -/
def Number.found : Number → Found
  | natural n => .natural n
  | negative n => .negative n
  | fraction below x => .fraction below x

/-- The greatest power of ten that is a finite number. -/
def maxPower : Nat := 308

/-- The greatest exponent that is read exactly. -/
def maxExponent : Nat := 2147483647

def tenPower (n : Nat) : Binary64 := (Binary64.ofNat (Nat.pow 10 n)).getD .zero

/-- Divides by `10 ^ n`, in steps that are finite numbers. -/
def divideByPower (x : Binary64) (n : Nat) : Binary64 :=
  if n ≤ maxPower ∨ x.mantissa = 0 then
    if x.mantissa = 0 then x else (x.div (tenPower n)).getD .zero
  else divideByPower ((x.div (tenPower maxPower)).getD .zero) (n - maxPower)
termination_by n
decreasing_by simp only [maxPower] at *; omega

/-- The number `digits * 10 ^ exponent`, rounded; `none` if it is too large. -/
def scaled (digits : Nat) (exponent : Int) : Option Binary64 := do
  let x ← Binary64.ofNat digits
  if exponent < 0 then some (divideByPower x exponent.natAbs)
  else if exponent ≤ maxPower then x.mul (tenPower exponent.natAbs)
  else if x.mantissa = 0 then some x
  else none

/-- Digits read so far and the power of ten that they stand at. -/
structure Parts where
  digits : Nat
  exponent : Int

namespace Reader

/-- The next characters as long as they are digits, without moving. -/
def digitsAhead : Reader Text := fun s => .ok (s.rest.takeWhile isAsciiDigit, s)

def drop (n : Nat) : Reader Unit := fun s => .ok ((), s.drop n)

/-- The number of digits of `ds` that can follow `n` within the range of files, and the number
that they make. -/
def fitting (n : Nat) : Text → Nat × Nat
  | [] => (0, n)
  | c :: ds =>
    let m := 10 * n + (digitValue? c).getD 0
    if m ≤ maxNatural then
      let (count, total) := fitting m ds
      (count + 1, total)
    else (0, n)

def finish (below : Bool) (p : Parts) : Reader Number :=
  match scaled p.digits p.exponent with
  | some x => pure (.fraction below x)
  | none => failHere .numberOutOfRange

/-- The digits of an exponent as long as it is in range, and whether it is. -/
def exponentValue : (n : Nat) → Text → Nat × Nat × Bool
  | n, [] => (0, n, true)
  | n, c :: ds =>
    let m := 10 * n + (digitValue? c).getD 0
    if m ≤ maxExponent then
      let (count, total, fits) := exponentValue m ds
      (count + 1, total, fits)
    else (1, n, false)

def readExponent (below : Bool) (p : Parts) : Reader Number := do
  advance
  let shrinks := (← peek?) = some '-'
  if shrinks || (← peek?) = some '+' then advance
  let ds ← digitsAhead
  if ds = [] then
    if (← peek?).isNone then failHere .endInValue else failAhead .invalidNumber
  else
    let (count, e, fits) := exponentValue 0 ds
    drop count
    if fits then
      let shift : Int := if shrinks then -e else e
      finish below { p with exponent := p.exponent + shift }
    else if p.digits ≠ 0 && !shrinks then failHere .numberOutOfRange
    else
      drop (ds.length - count)
      return .fraction below .zero

def finishWithExponent (below : Bool) (p : Parts) : Reader Number := do
  match ← peek? with
  | some 'e' | some 'E' => readExponent below p
  | _ => finish below p

/-- Reads the digits after a point, from the point. Digits beyond the range have no weight. -/
def readFraction (below : Bool) (p : Parts) : Reader Number := do
  advance
  let ds ← digitsAhead
  if ds = [] then
    if (← peek?).isNone then failAhead .endInValue else failAhead .invalidNumber
  else
    let (count, digits) := fitting p.digits ds
    drop ds.length
    finishWithExponent below ⟨digits, p.exponent - count⟩

/-- Reads what follows digits that were too many. -/
def readLong (below : Bool) (p : Parts) : Reader Number := do
  match ← peek? with
  | some '.' => readFraction below p
  | _ => finishWithExponent below p

/-- Reads what follows the digits of a whole number in range. -/
def readWhole (below : Bool) (n : Nat) : Reader Number := do
  match ← peek? with
  | some '.' => readFraction below ⟨n, 0⟩
  | some 'e' | some 'E' => readExponent below ⟨n, 0⟩
  | _ =>
    if !below then return .natural n
    else if 0 < n ∧ n ≤ maxNegative then return .negative n
    else return .fraction true ((Binary64.ofNat n).getD .zero)

def readUnsigned (below : Bool) : Reader Number := do
  let ds ← digitsAhead
  match ds with
  | [] => if (← peek?).isNone then failHere .endInValue else failAhead .invalidNumber
  | '0' :: more =>
    advance
    if more = [] then readWhole below 0 else failAhead .invalidNumber
  | _ =>
    let (count, n) := fitting 0 ds
    drop ds.length
    if count = ds.length then readWhole below n
    else readLong below ⟨n, (ds.length - count : Nat)⟩

def readNumber : Reader Number := do
  if (← peek?) = some '-' then
    advance
    readUnsigned true
  else readUnsigned false

end Reader

end Storygraph.Json
