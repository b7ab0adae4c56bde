/-! Sets of code points as runs with a fixed step, the form in which character tables are kept. -/

namespace AttrHoist.Text

/-- The code points `first`, `first + step`, … up to `last`. -/
structure Run where
  first : Nat
  last : Nat
  step : Nat

/-- Whether a code point belongs to the run. -/
def Run.contains (r : Run) (n : Nat) : Bool :=
  r.first ≤ n && n ≤ r.last && (n - r.first) % r.step == 0

/-- Whether a code point belongs to one of the runs. -/
def Runs.contain (rs : List Run) (n : Nat) : Bool :=
  rs.any (·.contains n)

end AttrHoist.Text
