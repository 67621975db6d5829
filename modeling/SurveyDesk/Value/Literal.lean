import SurveyDesk.Decimal.Layout
import SurveyDesk.Unicode.Printable
import SurveyDesk.Value.Basic

/-!
How values are named in messages and how they read as text. A text stands for itself where it is
the whole value; in a message or inside a list or an object it is quoted, with single quotes
unless it holds one and no double quote. What cannot be printed is written as an escape.
-/
namespace SurveyDesk

/-- A whole number in hexadecimal, padded with zeros to a width. -/
def hexadecimal (width n : Nat) : List Char :=
  let digits := Nat.toDigits 16 n
  List.replicate (width - digits.length) '0' ++ digits

namespace Literal

/-- The quote that a text is written with. -/
def quoteFor (text : List Point) : Char :=
  if text.contains (.char '\'') && !text.contains (.char '"') then '"' else '\''

/-- A character inside a quoted text. -/
def escapedChar (quote c : Char) : List Char :=
  if c = quote ∨ c = '\\' then ['\\', c]
  else if c = '\n' then ['\\', 'n']
  else if c = '\r' then ['\\', 'r']
  else if c = '\t' then ['\\', 't']
  else if Unicode.isPrintable c.toNat then [c]
  else if c.toNat < 0x100 then '\\' :: 'x' :: hexadecimal 2 c.toNat
  else if c.toNat < 0x10000 then '\\' :: 'u' :: hexadecimal 4 c.toNat
  else '\\' :: 'U' :: hexadecimal 8 c.toNat

/-- A code point inside a quoted text. -/
def escaped (quote : Char) : Point → List Char
  | .char c => escapedChar quote c
  | .half place => '\\' :: 'u' :: hexadecimal 4 (Point.half place).code

/-- A text in quotes. -/
def quoted (text : List Point) : List Char :=
  let quote := quoteFor text
  quote :: text.flatMap (escaped quote) ++ [quote]

end Literal

namespace Value

/-- A value as it is named in a message. -/
def literal : Value → List Char
  | .null => "None".toList
  | .bool flag => (if flag then "True" else "False").toList
  | .int number => (toString number).toList
  | .float number => Decimal.Layout.display.write number
  | .str text => Literal.quoted text.points
  | .list items => '[' :: (itemLiterals items ++ [']'])
  | .object entries => '\x7b' :: (entryLiterals entries ++ ['\x7d'])
where
  /-- Items with commas between them. -/
  itemLiterals : List Value → List Char
    | [] => []
    | [item] => literal item
    | item :: rest => literal item ++ ',' :: ' ' :: itemLiterals rest
  /-- Entries with commas between them, each key before its value. -/
  entryLiterals : List (Text × Value) → List Char
    | [] => []
    | [(key, value)] => Literal.quoted key.points ++ ':' :: ' ' :: literal value
    | (key, value) :: rest =>
      Literal.quoted key.points ++ ':' :: ' ' :: (literal value ++ ',' :: ' ' :: entryLiterals rest)

/-- A value as text: a text is itself, any other value its literal. -/
def asText : Value → Text
  | .str text => text
  | value => .ofChars (literal value)

end Value
end SurveyDesk
