import Storygraph.Text.Decimal
import Storygraph.Numeric.Binary64

/-!
# Shortest decimals

The decimal with the fewest digits that rounds to a given binary number, and its notation.
-/

namespace Storygraph

structure Decimal where
  digits : Nat
  exponent : Int
deriving DecidableEq, Repr

namespace Decimal

/-- `10 ^ e`, for the part of an exponent that is not negative. -/
def pow10 (e : Int) : Nat := Nat.pow 10 e.toNat

/-- Whether the decimal rounds to `x`. The numbers that do lie between the midpoints to the
neighbours of `x`, ends included if the mantissa is even. -/
def roundsTo (d : Decimal) (x : Binary64) : Bool :=
  -- all sides are multiplied by `4 * 2 ^ -x.exponent * 10 ^ -d.exponent`
  let value := 4 * d.digits * pow10 d.exponent * Binary64.pow2 (-x.exponent)
  let unit := Binary64.pow2 x.exponent * pow10 (-d.exponent)
  let atBinade := x.mantissa = Binary64.pow2 52 ∧ Binary64.minExponent < x.exponent
  let low := (4 * x.mantissa - if atBinade then 1 else 2) * unit
  let high := (4 * x.mantissa + 2) * unit
  if x.mantissa % 2 = 0 then low ≤ value && value ≤ high else low < value && value < high

def log10 (x : Binary64) : Int :=
  let (num, den) := x.quotient
  if den ≤ num then ((Text.ofNat (num / den)).length : Int) - 1
  else
    -- `den / num` lies between two powers of ten and may equal the lower one
    let e : Int := ((Text.ofNat (den / num)).length : Int)
    if num * pow10 (e - 1) < den then -e else 1 - e

/-- The neighbours of `x` on the grid of multiples of `10 ^ e` that round to `x`, the nearer one
first; of two equally near ones, the even. -/
def neighbours (x : Binary64) (e : Int) : List Decimal :=
  let (num, den) := x.quotient
  let scaled := num * pow10 (-e)
  let unit := den * pow10 e
  let low := scaled / unit
  let nearest := Binary64.roundDiv scaled unit
  let other := if nearest = low then low + 1 else low
  [⟨nearest, e⟩, ⟨other, e⟩].filter (·.roundsTo x)

/-- The decimal with the fewest digits that rounds to `x`; of several, the nearest. -/
def shortest (x : Binary64) : Decimal :=
  let top := log10 x
  let candidates := (List.range 17).flatMap fun n : Nat => neighbours x (top - n)
  candidates.head?.getD ⟨0, 0⟩

def strip : (fuel : Nat) → Decimal → Decimal
  | 0, d => d
  | fuel + 1, d =>
    if d.digits ≠ 0 ∧ d.digits % 10 = 0 then strip fuel ⟨d.digits / 10, d.exponent + 1⟩ else d

/-- A decimal in positional notation from `0.00001` up to sixteen digits before the point, which
a digit always follows; otherwise with an exponent and its sign. -/
def layout (d : Decimal) : Text :=
  let ds := Text.ofNat d.digits
  let lead : Int := d.exponent + ds.length - 1
  if -5 ≤ lead ∧ lead < 0 then
    "0.".toList ++ List.replicate (-lead - 1).toNat '0' ++ ds
  else if 0 ≤ lead ∧ lead ≤ 15 then
    let whole := ds.take (lead + 1).toNat ++ List.replicate d.exponent.toNat '0'
    let rest := ds.drop (lead + 1).toNat
    whole ++ '.' :: if rest = [] then ['0'] else rest
  else
    let tail := if ds.tail = [] then [] else '.' :: ds.tail
    ds.take 1 ++ tail ++ ['e', if lead < 0 then '-' else '+'] ++ Text.ofNat lead.natAbs

end Decimal

namespace Binary64

def toText (negative : Bool) (x : Binary64) : Text :=
  let digits :=
    if x.mantissa = 0 then "0.0".toList
    else (Decimal.strip 17 (Decimal.shortest x)).layout
  if negative then '-' :: digits else digits

end Binary64

end Storygraph
