import SurveyDesk.Unicode.Blank
import SurveyDesk.Unicode.Numeric

/-!
Reading a numeral. The digits may be of any script, one low line may stand between two of them,
a sign may stand before them and blanks around them. A numeral with too many digits is not read.
-/
namespace SurveyDesk.Numeral

/-- The digits of a numeral's body: a digit first, then digits, each after at most one low
line. -/
def digits? : List Char → Option (List Nat)
  | [] => none
  | [last] => (Unicode.digitValue? last.toNat).map ([·])
  | c :: '_' :: rest => do return (← Unicode.digitValue? c.toNat) :: (← digits? rest)
  | c :: rest => do return (← Unicode.digitValue? c.toNat) :: (← digits? rest)

/-- A sign at the front, and what follows. -/
def signed : List Char → Bool × List Char
  | '-' :: rest => (true, rest)
  | '+' :: rest => (false, rest)
  | rest => (false, rest)

/-- The number with these decimal digits. -/
def ofDigits (digits : List Nat) : Nat := digits.foldl (fun sum digit => sum * 10 + digit) 0

/-- The most digits that a numeral may have. -/
def digitLimit : Nat := 4300

/-- The whole number that a numeral stands for. -/
def whole? (text : List Char) : Option Int := do
  let (negative, body) := signed (Unicode.trimmed text)
  let digits ← digits? body
  let size : Int := ofDigits digits
  if digitLimit < digits.length then none
  else return if negative then -size else size

end SurveyDesk.Numeral
