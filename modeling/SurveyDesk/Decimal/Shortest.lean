import SurveyDesk.Binary64

/-!
The shortest decimal that reads back as a given double. For one, two, up to seventeen digits the
two decimals next to the double on that grid are tested against the interval of reals that round
to it. The first grid with a hit wins, and of two hits the nearer one.
-/
namespace SurveyDesk.Decimal

/-- A positive decimal: the digits as a whole number, times ten to the power `exponent`. -/
structure Digits where
  whole : Nat
  exponent : Int
  deriving DecidableEq, Repr, Inhabited

/-- How many decimal digits a whole number is written with. -/
def width (n : Nat) : Nat := (Nat.toDigits 10 n).length

/-- The largest power of ten that does not exceed a positive fraction. -/
def magnitude (numerator denominator : Nat) : Int :=
  if denominator ≤ numerator then (width (numerator / denominator) : Int) - 1
  else
    let inverse := (denominator + numerator - 1) / numerator
    Int.neg (width (inverse - 1))

/-- A fraction divided by a power of ten, again as a fraction. -/
def unscaled (numerator denominator : Nat) (exponent : Int) : Nat × Nat :=
  if 0 ≤ exponent then (numerator, denominator * Nat.pow 10 exponent.toNat)
  else (numerator * Nat.pow 10 (-exponent).toNat, denominator)

/-- The reals that round to a double, as bounds in quarters of its last place. The lower bound is
closer where the double is a power of two above the smallest; the bounds themselves belong to the
interval exactly when the significand is even. -/
structure Interval where
  low : Nat
  high : Nat
  closed : Bool
  deriving Repr

/-- The interval of the double with this significand and exponent. -/
def Interval.around (significand : Nat) (exponent : Int) : Interval where
  low :=
    if significand = Nat.pow 2 (Binary64.precision - 1) ∧ Binary64.lowestExponent < exponent then
      4 * significand - 1
    else 4 * significand - 2
  high := 4 * significand + 2
  closed := significand % 2 = 0

/-- Whether `quarters / unit` lies in the interval. -/
def Interval.holds (interval : Interval) (quarters unit : Nat) : Bool :=
  if interval.closed then interval.low * unit ≤ quarters ∧ quarters ≤ interval.high * unit
  else interval.low * unit < quarters ∧ quarters < interval.high * unit

/-- The distance of two whole numbers. -/
private def distance (a b : Nat) : Nat := (a - b) + (b - a)

/-- The decimal with this many digits that is nearest to the double, if it rounds to the double.
All quantities are brought to the common unit of a quarter of the double's last place. -/
def candidate? (significand : Nat) (exponent : Int) (digits : Nat) : Option Digits :=
  let (top, bottom) := Binary64.unscaled significand 1 (-exponent)
  let power := magnitude top bottom - ((digits : Int) - 1)
  let (gridTop, gridBottom) := unscaled top bottom power
  let below := gridTop / gridBottom
  -- one step of the decimal grid is `stepTop / stepBottom` quarters of the last place
  let (stepTop, stepBottom) :=
    let (a, b) := unscaled 1 1 (-power)
    let (c, d) := Binary64.unscaled 4 1 exponent
    (a * c, b * d)
  let interval := Interval.around significand exponent
  let hit (n : Nat) : Bool := 0 < n && interval.holds (n * stepTop) stepBottom
  let far (n : Nat) : Nat := distance (n * stepTop) (4 * significand * stepBottom)
  -- the upper neighbour may be the next power of ten, whose last zero is not a digit of its own
  let pick (n : Nat) : Option Digits :=
    some (if n % 10 = 0 then ⟨n / 10, power + 1⟩ else ⟨n, power⟩)
  match hit below, hit (below + 1) with
  | true, true =>
    if far below < far (below + 1) ∨ (far below = far (below + 1) ∧ below % 2 = 0) then pick below
    else pick (below + 1)
  | true, false => pick below
  | false, true => pick (below + 1)
  | false, false => none

/-- The first grid from `digits` on, of `left` grids in all, that has a hit. -/
def search (significand : Nat) (exponent : Int) (digits : Nat) : Nat → Option Digits
  | 0 => none
  | left + 1 =>
    match candidate? significand exponent digits with
    | some found => some found
    | none => search significand exponent (digits + 1) left

/-- The fewest digits that read back as a positive double. Seventeen digits always do, so the
default, the significand scaled exactly, is not reached. -/
def shortest (significand : Nat) (exponent : Int) : Digits :=
  (search significand exponent 1 17).getD ⟨significand, 0⟩

end SurveyDesk.Decimal
