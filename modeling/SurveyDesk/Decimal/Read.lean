import SurveyDesk.Binary64

/-!
Reading a decimal as a double. The digits before and after the point make one whole number, the
point and the exponent one power of ten, and the double nearest to their product is taken.
-/
namespace SurveyDesk.Decimal

/-- The value of one decimal digit; other characters count as their distance from `0`. -/
def digitValue (c : Char) : Nat := c.toNat - '0'.toNat

/-- The whole number that a run of decimal digits stands for. -/
def wholeOf (digits : List Char) : Nat :=
  digits.foldl (fun sum c => sum * 10 + digitValue c) 0

/-- Powers of ten from which every decimal with a given number of digits is beyond the largest
double, and below which every one is nearer to zero than to the smallest. -/
def overflowPower : Int := 400

/-- See `overflowPower`. -/
def underflowPower : Int := -400

/-- The double nearest to `whole * 10 ^ power`. The two tests only spare the arithmetic on
numbers that are far out of range. -/
def nearest (negative : Bool) (whole : Nat) (power : Int) (digits : Nat) : Binary64 :=
  if whole = 0 then .finite negative 0 Binary64.lowestExponent
  else if overflowPower < power + digits ∧ overflowPower < power + whole.log2 / 4 then
    .infinite negative
  else if power + digits < underflowPower then .finite negative 0 Binary64.lowestExponent
  else if 0 ≤ power then Binary64.ofRatio negative (whole * Nat.pow 10 power.toNat) 1
  else Binary64.ofRatio negative whole (Nat.pow 10 (-power).toNat)

/-- The double that a decimal with these digits before the point, after it, and this exponent
stands for. -/
def toBinary64 (negative : Bool) (ahead behind : List Char) (exponent : Int) : Binary64 :=
  nearest negative (wholeOf (ahead ++ behind)) (exponent - behind.length)
    (ahead ++ behind).length

end SurveyDesk.Decimal
