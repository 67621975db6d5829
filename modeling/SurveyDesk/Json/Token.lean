import SurveyDesk.Decimal.Read
import SurveyDesk.Json.Fault
import SurveyDesk.Value.Basic

/-!
The tokens of a JSON text. A token that cannot be read is kept as `broken`, so that the reader
reports it only where a token of its kind is expected.
-/
namespace SurveyDesk.Json

/-- A token. `whole` keeps its digits, because their number is limited. -/
inductive Token where
  | openList
  | closeList
  | openObject
  | closeObject
  | colon
  | comma
  | text (content : List Point)
  | constant (value : Value)
  | whole (negative : Bool) (digits : List Char)
  | brokenText (cause : Cause) (offset : Nat)
  | unknown
  deriving Repr

/-- A token with the offset at which it starts. -/
structure Lexeme where
  token : Token
  offset : Nat
  deriving Repr

/-- What may stand between tokens. -/
def isSpace (point : Point) : Bool :=
  point = ' ' || point = '\t' || point = '\n' || point = '\r'

/-- The value of a hexadecimal digit. -/
def hexValue? (c : Char) : Option Nat :=
  if '0' ≤ c ∧ c ≤ '9' then some (c.toNat - '0'.toNat)
  else if 'a' ≤ c ∧ c ≤ 'f' then some (c.toNat - 'a'.toNat + 10)
  else if 'A' ≤ c ∧ c ≤ 'F' then some (c.toNat - 'A'.toNat + 10)
  else none

/-- The number that four hexadecimal digits stand for. -/
def fourHex? : (a b c d : Point) → Option Nat
  | .char a, .char b, .char c, .char d => do
    return (((← hexValue? a) * 16 + (← hexValue? b)) * 16 + (← hexValue? c)) * 16 + (← hexValue? d)
  | _, _, _, _ => none

/-- The character that a backslash and a letter stand for. -/
def shortEscape? : Char → Option Char
  | '"' => some '"'
  | '\\' => some '\\'
  | '/' => some '/'
  | 'b' => some '\x08'
  | 'f' => some '\x0c'
  | 'n' => some '\n'
  | 'r' => some '\r'
  | 't' => some '\t'
  | _ => none

/-- Whether a code unit is the first half of a pair. -/
def isHighHalf (unit : Nat) : Bool := 0xD800 ≤ unit && unit < 0xDC00

/-- Whether a code unit is the second half of a pair. -/
def isLowHalf (unit : Nat) : Bool := 0xDC00 ≤ unit && unit < 0xE000

/-- The character that two halves make. -/
def charOfPair (high low : Nat) : Char :=
  Char.ofNat (0x10000 + (high - 0xD800) * 0x400 + (low - 0xDC00))

/-- The content of a text and the number of characters up to and with its closing quote, read
from behind the opening quote, which lies `passed` characters back. An escape of four digits needs
a code point behind it; half a pair alone stands for itself. -/
def readText : (passed : Nat) → List Point → Except (Cause × Nat) (List Point × Nat)
  | _, [] => .error (.unterminatedText, 0)
  | passed, .char '"' :: _ => .ok ([], passed + 1)
  | _, [.char '\\'] => .error (.unterminatedText, 0)
  | passed, .char '\\' :: .char 'u' :: a :: b :: c :: d :: next :: rest =>
    match fourHex? a b c d with
    | none => .error (.badUnicodeEscape, passed + 1)
    | some unit =>
      let alone := do
        let (content, length) ← readText (passed + 6) (next :: rest)
        return (.ofCode unit :: content, length)
      if isHighHalf unit then
        match next, rest with
        | .char '\\', .char 'u' :: e :: f :: g :: h :: last :: rest =>
          match fourHex? e f g h with
          | none => .error (.badUnicodeEscape, passed + 7)
          | some low =>
            if isLowHalf low then do
              let (content, length) ← readText (passed + 12) (last :: rest)
              return (.char (charOfPair unit low) :: content, length)
            else alone
        | _, _ => alone
      else alone
  | passed, .char '\\' :: .char 'u' :: _ => .error (.badUnicodeEscape, passed + 1)
  | passed, .char '\\' :: .half _ :: _ => .error (.badEscape, passed)
  | passed, .char '\\' :: .char c :: rest =>
    match shortEscape? c with
    | none => .error (.badEscape, passed)
    | some meant => do
      let (content, length) ← readText (passed + 2) rest
      return (.char meant :: content, length)
  | passed, point :: rest =>
    if point.code < 0x20 then .error (.controlCharacter, passed)
    else do
      let (content, length) ← readText (passed + 1) rest
      return (point :: content, length)

/-- The longest run of decimal digits at the front. -/
def digitRun : List Point → List Char
  | .char c :: rest => if '0' ≤ c ∧ c ≤ '9' then c :: digitRun rest else []
  | _ => []

/-- The digits of the whole part of a number: a zero alone, or a run that does not start with
one. -/
def wholeRun : List Point → List Char
  | .char '0' :: _ => ['0']
  | text => digitRun text

/-- The digits behind a point, none if the point is not followed by one. -/
def fractionRun : List Point → List Char
  | .char '.' :: rest => digitRun rest
  | _ => []

/-- The sign and the digits of an exponent and the number of characters it takes. -/
def exponentRun? : List Point → Option (Bool × List Char × Nat)
  | mark :: rest =>
    if mark = 'e' ∨ mark = 'E' then
      let (negative, signed, rest) := match rest with
        | .char '-' :: rest => (true, 1, rest)
        | .char '+' :: rest => (false, 1, rest)
        | rest => (false, 0, rest)
      match digitRun rest with
      | [] => none
      | digits => some (negative, digits, 1 + signed + digits.length)
    else none
  | [] => none

/-- A number and its length; a point or an exponent makes it a double. -/
def readNumber? (text : List Point) : Option (Token × Nat) :=
  let (negative, signed, body) := match text with
    | .char '-' :: rest => (true, 1, rest)
    | rest => (false, 0, rest)
  match wholeRun body with
  | [] => none
  | ahead =>
    let afterWhole := body.drop ahead.length
    let behind := fractionRun afterWhole
    let fractionLength := if behind.isEmpty then 0 else behind.length + 1
    let length := signed + ahead.length + fractionLength
    match exponentRun? (afterWhole.drop fractionLength) with
    | some (exponentNegative, digits, exponentLength) =>
      let size : Int := Decimal.wholeOf digits
      let exponent := if exponentNegative then -size else size
      some (.constant (.float (Decimal.toBinary64 negative ahead behind exponent)),
        length + exponentLength)
    | none =>
      if behind.isEmpty then some (.whole negative ahead, length)
      else some (.constant (.float (Decimal.toBinary64 negative ahead behind 0)), length)

/-- The words for values and their meanings. -/
def words : List (String × Value) :=
  [("null", .null), ("true", .bool true), ("false", .bool false), ("NaN", .float .nan),
   ("Infinity", .float (.infinite false)), ("-Infinity", .float (.infinite true))]

/-- The token at the front of a text that does not start with a space, and its length. -/
def firstToken (offset : Nat) : List Point → Token × Nat
  | [] => (.unknown, 0)
  | .char '[' :: _ => (.openList, 1)
  | .char ']' :: _ => (.closeList, 1)
  | .char '\x7b' :: _ => (.openObject, 1)
  | .char '\x7d' :: _ => (.closeObject, 1)
  | .char ':' :: _ => (.colon, 1)
  | .char ',' :: _ => (.comma, 1)
  | .char '"' :: rest =>
    match readText 1 rest with
    | .ok (content, length) => (.text content, length)
    | .error (cause, passed) => (.brokenText cause (offset + passed), 1)
  | text =>
    match words.find? fun word => (Text.whole word.1).points.isPrefixOf text with
    | some (word, value) => (.constant value, word.length)
    | none => (readNumber? text).getD (.unknown, 1)

/-- Whether nothing behind a token can be read. -/
def Token.isBroken : Token → Bool
  | .brokenText _ _ | .unknown => true
  | _ => false

/-- The tokens from an offset on, up to the first that cannot be read. -/
def tokensFrom : (steps offset : Nat) → List Point → List Lexeme
  | 0, _, _ => []
  | _ + 1, _, [] => []
  | steps + 1, offset, point :: rest =>
    if isSpace point then tokensFrom steps (offset + 1) rest
    else
      let (token, length) := firstToken offset (point :: rest)
      let following :=
        if token.isBroken then []
        else tokensFrom steps (offset + length) (rest.drop (length - 1))
      ⟨token, offset⟩ :: following

/-- The tokens of a text. Every step takes a code point, so there are as many steps as code
points. -/
def tokens (text : List Point) : List Lexeme := tokensFrom text.length 0 text

end SurveyDesk.Json
