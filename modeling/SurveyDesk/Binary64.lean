/-!
Double-precision numbers as exact values. A finite number is an integer significand times a
power of two, so reading a decimal, printing one and comparing with an integer of any size are
whole-number arithmetic, and none of them leaves the logic. Rounding happens in one place only,
`ofRatio`, which takes the nearest double and, of two equally near, the one with an even
significand.
-/
namespace SurveyDesk

/-- A double-precision number: `finite` stands for `significand * 2 ^ exponent` under a sign of
its own, so that the two zeros differ. -/
inductive Binary64 where
  | finite (negative : Bool) (significand : Nat) (exponent : Int)
  | infinite (negative : Bool)
  | nan
  deriving DecidableEq, Repr, Inhabited

namespace Binary64

/-- The number of bits of a full significand. -/
def precision : Nat := 53

/-- The exponent of the smallest doubles, and the lowest of all. -/
def lowestExponent : Int := -1074

/-- The exponent of the largest doubles. -/
def highestExponent : Int := 971

/-- A quotient rounded to the nearest whole number, a half going to the even neighbour. -/
def roundedQuotient (numerator denominator : Nat) : Nat :=
  let quotient := numerator / denominator
  let twice := 2 * (numerator % denominator)
  if denominator < twice ∨ (denominator = twice ∧ quotient % 2 = 1) then quotient + 1
  else quotient

/-- The fraction `numerator / denominator` divided by `2 ^ exponent`, again as a fraction. -/
def unscaled (numerator denominator : Nat) (exponent : Int) : Nat × Nat :=
  if 0 ≤ exponent then (numerator, denominator * Nat.pow 2 exponent.toNat)
  else (numerator * Nat.pow 2 (-exponent).toNat, denominator)

/-- The exponent under which a positive fraction has a significand of `precision` bits, or the
lowest exponent where the fraction is too small for that. -/
def fittingExponent (numerator denominator : Nat) : Int :=
  let guess : Int := (numerator.log2 : Int) - denominator.log2 - (precision - 1)
  let (top, bottom) := unscaled numerator denominator guess
  max lowestExponent (if top < bottom * Nat.pow 2 (precision - 1) then guess - 1 else guess)

/-- The double nearest to a fraction. A fraction beyond the largest double by half a step or
more is infinite. -/
def ofRatio (negative : Bool) (numerator denominator : Nat) : Binary64 :=
  if numerator = 0 then .finite negative 0 lowestExponent
  else
    let exponent := fittingExponent numerator denominator
    let (top, bottom) := unscaled numerator denominator exponent
    let significand := roundedQuotient top bottom
    let (significand, exponent) :=
      if significand = Nat.pow 2 precision then (Nat.pow 2 (precision - 1), exponent + 1)
      else (significand, exponent)
    if highestExponent < exponent then .infinite negative
    else .finite negative significand exponent

/-- A place on the number line, the two infinities included. -/
inductive Place where
  | below
  | at (numerator : Int) (denominator : Nat)
  | above
  deriving DecidableEq, Repr

/-- The place of a whole number. -/
def Place.ofInt (n : Int) : Place := .at n 1

/-- The place of a double; the value that is not a number has none. -/
def place? : Binary64 → Option Place
  | .finite negative significand exponent =>
    let (top, bottom) := unscaled significand 1 (-exponent)
    some (.at (if negative then -(top : Int) else top) bottom)
  | .infinite negative => some (if negative then .below else .above)
  | .nan => none

/-- The order of two places; fractions are compared by cross-multiplication. -/
def Place.order : Place → Place → Ordering
  | .below, .below => .eq
  | .below, _ => .lt
  | .above, .above => .eq
  | .above, _ => .gt
  | .at _ _, .below => .gt
  | .at _ _, .above => .lt
  | .at a b, .at c d => compare (a * d) (c * b)

/-- The whole part of a double, toward zero; an infinity and the value that is not a number
have none. -/
def wholePart? : Binary64 → Option Int
  | .finite negative significand exponent =>
    let (top, bottom) := unscaled significand 1 (-exponent)
    let whole : Int := (top / bottom : Nat)
    some (if negative then -whole else whole)
  | _ => none

/-- Whether a double is one of the two zeros. -/
def isZero : Binary64 → Bool
  | .finite _ 0 _ => true
  | _ => false

/-- Whether a double is an ordinary number, neither infinite nor undefined. -/
def isFinite : Binary64 → Bool
  | .finite _ _ _ => true
  | _ => false

end Binary64
end SurveyDesk
