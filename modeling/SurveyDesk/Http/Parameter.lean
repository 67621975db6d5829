import SurveyDesk.Text.Numeral
import SurveyDesk.Unicode.Blank

/-!
Numbers and flags as texts in a query. A whole number is an optional minus and digits that do not
start with a needless zero. What is not of this plain form is read again without white space
around it, a plus, needless zeros at the front, a fraction of zeros and single low lines.
-/
namespace SurveyDesk.Http

/-- Why a text is no whole number that can be read. -/
inductive WholeFault where
  | notWhole
  | tooLong
  deriving DecidableEq, Repr

/-- Whether a character is one of the ten digits. -/
def isDigit (c : Char) : Bool := '0' ≤ c && c ≤ '9'

/-- The number with these digits. -/
def ofDigitChars (digits : List Char) : Nat :=
  Numeral.ofDigits (digits.map fun c => c.toNat - 48)

/-- The most characters that a numeral may have. -/
def numeralLimit : Nat := 4300

/-- The whole number that a text in its plain form stands for. Too long a run of digits is
refused before what follows it is looked at. -/
def plainWhole (text : List Char) : Except WholeFault Int :=
  let negative := text.head? = some '-'
  let body := if negative then text.drop 1 else text
  let digits := body.takeWhile isDigit
  let size : Int := ofDigitChars digits
  if body = ['0'] then .ok 0
  else if digits.isEmpty ∨ digits.head? = some '0' then .error .notWhole
  else if numeralLimit < digits.length + (if negative then 1 else 0) then .error .tooLong
  else if digits.length < body.length then .error .notWhole
  else .ok (if negative then -size else size)

/-- What follows zeros and low lines at the front, one zero of which stays where nothing or a
point follows; a low line stays where it comes last. A minus may follow them. -/
def withoutZeros (last : Char) : List Char → Option (List Char)
  | [] => some [last]
  | '.' :: rest => some (last :: '.' :: rest)
  | c :: rest =>
    if c = '0' ∨ c = '_' then withoutZeros c rest
    else if isDigit c ∨ c = '-' then some (c :: rest)
    else none

/-- A numeral without a sign and without needless zeros at the front. -/
def withoutLeadingZeros? : List Char → Option (List Char)
  | [] => none
  | c :: rest =>
    if c = '0' then withoutZeros '0' rest
    else if isDigit c then some (c :: rest)
    else none

/-- A numeral without a fraction of zeros. -/
def withoutFraction (text : List Char) : List Char :=
  match text.dropWhile (· ≠ '.') with
  | '.' :: '0' :: zeros => if zeros.all (· = '0') then text.takeWhile (· ≠ '.') else text
  | _ => text

/-- Whether two low lines stand side by side in a text. -/
def hasDoubleLine : List Char → Bool
  | '_' :: '_' :: _ => true
  | _ :: rest => hasDoubleLine rest
  | [] => false

/-- A numeral without low lines, which stay if there is one at an end or two side by side. -/
def withoutLines (text : List Char) : List Char :=
  if text.head? = some '_' ∨ text.getLast? = some '_' ∨ hasDoubleLine text then text
  else text.filter (· ≠ '_')

/-- The plain form of a numeral without a plus. -/
def unsignedForm? (text : List Char) : Option (List Char) := do
  match text with
  | '-' :: rest => return withoutLines ('-' :: withoutFraction (← withoutLeadingZeros? rest))
  | _ => return withoutLines (withoutFraction (← withoutLeadingZeros? text))

/-- The plain form of a numeral. -/
def plainForm? (text : List Char) : Option (List Char) :=
  match Unicode.trimmedOf Unicode.isSpace text with
  | '+' :: '-' :: _ => none
  | '+' :: rest => unsignedForm? rest
  | text => unsignedForm? text

/-- The whole number that a text stands for. Only a text in its plain form is reported as too
long. -/
def whole (text : List Char) : Except WholeFault Int :=
  match plainWhole text with
  | .error .notWhole =>
    match (plainForm? text).map plainWhole with
    | some (.ok number) => .ok number
    | _ => .error .notWhole
  | outcome => outcome

/-- The words for yes. -/
def yesWords : List String := ["1", "on", "t", "true", "y", "yes"]

/-- The words for no. -/
def noWords : List String := ["0", "off", "f", "false", "n", "no"]

/-- The flag that a word in letters of either case stands for. -/
def flag? (text : String) : Option Bool :=
  let word := text.map Char.toLower
  if yesWords.contains word then some true
  else if noWords.contains word then some false
  else none

end SurveyDesk.Http
