import Storygraph.Text.Ascii

/-!
# Decimal and hexadecimal numerals

Natural numbers are written without sign or leading zeros.
-/

namespace Storygraph

def digitChar (d : Nat) : Char :=
  if d < 10 then Char.ofNat (d + 48) else Char.ofNat (d + 87)

def digitValue? (c : Char) : Option Nat :=
  if isAsciiDigit c then some (c.toNat - 48) else none

def hexValue? (c : Char) : Option Nat :=
  if isAsciiDigit c then some (c.toNat - 48)
  else if 'a' ≤ c ∧ c ≤ 'f' then some (c.toNat - 87)
  else if 'A' ≤ c ∧ c ≤ 'F' then some (c.toNat - 55)
  else none

namespace Text

/-- The numeral of `n` in a base from two to sixteen. -/
def ofNatBase (base : Nat) (n : Nat) : Text :=
  if n < base ∨ base < 2 then [digitChar n]
  else ofNatBase base (n / base) ++ [digitChar (n % base)]
termination_by n
decreasing_by
  have : base ≠ 0 ∧ base ≠ 1 := by omega
  exact Nat.div_lt_self (by omega) (by omega)

def ofNat (n : Nat) : Text := ofNatBase 10 n

def hexOfNat (n : Nat) : Text := ofNatBase 16 n

/-- The value of a text read as digits of a base; `none` if a character is no digit. -/
def readDigits? (value? : Char → Option Nat) (base : Nat) (t : Text) : Option Nat :=
  t.foldlM (fun n c => (value? c).map (base * n + ·)) 0

/-- The value of a decimal numeral, which has at least one digit. -/
def toNat? (t : Text) : Option Nat :=
  if t = [] then none else readDigits? digitValue? 10 t

/-- The value of a hexadecimal numeral, which has at least one digit. -/
def hexToNat? (t : Text) : Option Nat :=
  if t = [] then none else readDigits? hexValue? 16 t

end Text

end Storygraph
