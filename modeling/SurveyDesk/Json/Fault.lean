import SurveyDesk.Text.Basic

/-!
What can be wrong with a JSON text, and how it is reported. A malformed text is reported with the
line, the column and the offset at which reading stopped.
-/
namespace SurveyDesk.Json

/-- What was missing or wrong where reading stopped. -/
inductive Cause where
  | expectedValue
  | expectedKey
  | expectedColon
  | expectedComma
  | extraData
  | unterminatedText
  | controlCharacter
  | badEscape
  | badUnicodeEscape
  | byteOrderMark
  deriving DecidableEq, Repr

/-- What holds other values. -/
inductive Container where
  | list
  | object
  deriving DecidableEq, Repr

/-- The name of a container in reports. -/
def Container.name : Container → String
  | .list => "array"
  | .object => "object"

/-- Why a text is not read: it is malformed at an offset, it holds a whole number with too many
digits, or its lists and objects are nested too deeply. -/
inductive Fault where
  | malformed (cause : Cause) (offset : Nat)
  | numeralTooLong (digits : Nat)
  | tooDeep (opened : Container)
  deriving DecidableEq, Repr

/-- The wording of a cause. -/
def Cause.message : Cause → String
  | .expectedValue => "Expecting value"
  | .expectedKey => "Expecting property name enclosed in double quotes"
  | .expectedColon => "Expecting ':' delimiter"
  | .expectedComma => "Expecting ',' delimiter"
  | .extraData => "Extra data"
  | .unterminatedText => "Unterminated string starting at"
  | .controlCharacter => "Invalid control character at"
  | .badEscape => "Invalid \\escape"
  | .badUnicodeEscape => "Invalid \\uXXXX escape"
  | .byteOrderMark => "Unexpected UTF-8 BOM (decode using utf-8-sig)"

/-- The line and the column, both counted from one, at which an offset lies. -/
def lineAndColumn (text : List Point) (offset : Nat) : Nat × Nat :=
  let before := text.take offset
  (before.count (.char '\n') + 1, (before.reverse.takeWhile (· ≠ .char '\n')).length + 1)

/-- The most digits that a whole number may have. -/
def numeralLimit : Nat := 4300

/-- The report of a fault in a text. -/
def Fault.message (text : List Point) : Fault → String
  | .malformed cause offset =>
    let (line, column) := lineAndColumn text offset
    cause.message ++ ": line " ++ toString line ++ " column " ++ toString column
      ++ " (char " ++ toString offset ++ ")"
  | .numeralTooLong digits =>
    "Exceeds the limit (" ++ toString numeralLimit ++ " digits) for integer string conversion: "
      ++ "value has " ++ toString digits
      ++ " digits; use sys.set_int_max_str_digits() to increase the limit"
  | .tooDeep opened =>
    "maximum recursion depth exceeded while decoding a JSON " ++ opened.name
      ++ " from a unicode string"

end SurveyDesk.Json
