/-!
# Binary floating point

Non-negative numbers with fifty-three binary places, and the rounding of quotients to them.
-/

namespace Storygraph

structure Binary64 where
  mantissa : Nat
  exponent : Int
deriving DecidableEq, Repr

namespace Binary64

def zero : Binary64 := ⟨0, 0⟩

def minExponent : Int := -1074

def maxExponent : Int := 971

/-- `2 ^ e`, for the part of a quotient's exponent that is not negative. -/
def pow2 (e : Int) : Nat := Nat.pow 2 e.toNat

/-- The quotient of two natural numbers, rounded to the nearest one; a half goes to the even
neighbour. -/
def roundDiv (num den : Nat) : Nat :=
  let q := num / den
  let r := num % den
  if 2 * r < den then q else if den < 2 * r then q + 1 else q + q % 2

/-- The greatest `e` with `2 ^ e * den ≤ num`, for positive numbers. -/
def log2Quotient (num den : Nat) : Int :=
  let e : Int := (Nat.log2 num : Int) - (Nat.log2 den : Int)
  if num * pow2 (-e) < den * pow2 e then e - 1 else e

/-- The number nearest to `num / den`; `none` if that is too large. -/
def ofQuotient (num den : Nat) : Option Binary64 :=
  if num = 0 then some zero
  else
    let e := max minExponent (log2Quotient num den - 52)
    let m := roundDiv (num * pow2 (-e)) (den * pow2 e)
    let (m, e) := if m = pow2 53 then (pow2 52, e + 1) else (m, e)
    if maxExponent < e then none else some ⟨m, e⟩

def quotient (x : Binary64) : Nat × Nat := (x.mantissa * pow2 x.exponent, pow2 (-x.exponent))

def mul (x y : Binary64) : Option Binary64 :=
  ofQuotient (x.quotient.1 * y.quotient.1) (x.quotient.2 * y.quotient.2)

def div (x y : Binary64) : Option Binary64 :=
  ofQuotient (x.quotient.1 * y.quotient.2) (x.quotient.2 * y.quotient.1)

def ofNat (n : Nat) : Option Binary64 := ofQuotient n 1

end Binary64

end Storygraph
