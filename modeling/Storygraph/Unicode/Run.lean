/-!
# Runs of code points

Character properties are tables of runs. A run is an arithmetic progression of code points, so
that the alternating capital and small letters of many alphabets take one row.
-/

namespace Storygraph.Unicode

/-- The code points `first`, `first + step`, and so on up to `last`. -/
structure Run where
  first : Nat
  last : Nat
  step : Nat

def Run.contains (r : Run) (n : Nat) : Bool :=
  r.first ≤ n && n ≤ r.last && (n - r.first) % r.step == 0

def onRuns (rs : List Run) (c : Char) : Bool := rs.any (·.contains c.toNat)

end Storygraph.Unicode
