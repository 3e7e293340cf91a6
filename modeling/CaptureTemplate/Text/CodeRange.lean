/-!
# Ranges of code points

Unicode properties are tables of closed ranges.
-/

namespace CaptureTemplate.Text

/-- The code points from `first` to `last`, both included. -/
structure CodeRange where
  first : Nat
  last : Nat
deriving DecidableEq, Repr

/-- Whether `n` is one of the code points of the range. -/
def CodeRange.contains (r : CodeRange) (n : Nat) : Bool := r.first ≤ n && n ≤ r.last

end CaptureTemplate.Text
