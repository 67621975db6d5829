/-!
Classes of code points. A class is kept as the ascending code points at which membership changes,
so a point belongs to it exactly when an odd number of them lie at or before the point.
-/
namespace SurveyDesk.Unicode

/-- The number of bounds at or before a point, among those from `low` up to `high`, plus `low`.
Each step halves the span. -/
def countUpTo (bounds : Array Nat) (point : Nat) : (steps low high : Nat) → Nat
  | 0, low, _ => low
  | steps + 1, low, high =>
    if high ≤ low then low
    else
      let middle := (low + high) / 2
      if (bounds[middle]?).any (· ≤ point) then countUpTo bounds point steps (middle + 1) high
      else countUpTo bounds point steps low middle

/-- The number of bounds at or before a point. -/
def boundsUpTo (bounds : Array Nat) (point : Nat) : Nat :=
  countUpTo bounds point (bounds.size.log2 + 1) 0 bounds.size

/-- Whether a point belongs to the class with these bounds. -/
def within (bounds : Array Nat) (point : Nat) : Bool := boundsUpTo bounds point % 2 = 1

end SurveyDesk.Unicode
