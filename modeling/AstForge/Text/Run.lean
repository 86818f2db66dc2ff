/-!
# Text — runs of characters

A class of characters is given by its runs. A run holds every `step`-th code point from `first` to
`last`; the step 2 covers alphabets that list capital and small letters by turns.
-/

namespace AstForge.Text

/-- Every `step`-th code point from `first` to `last`. -/
structure Run where
  first : Nat
  last : Nat
  step : Nat

/-- Whether the code point `n` lies on the run. -/
def Run.holds (r : Run) (n : Nat) : Bool :=
  r.first ≤ n && n ≤ r.last && (n - r.first) % r.step == 0

/-- Whether `c` lies on one of the runs. -/
def inRuns (runs : List Run) (c : Char) : Bool :=
  runs.any (·.holds c.toNat)

end AstForge.Text
