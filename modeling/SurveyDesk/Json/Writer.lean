import SurveyDesk.Decimal.Layout
import SurveyDesk.Value.Literal

/-!
Writing a value as JSON text. Everything outside printable ASCII is written as an escape of four
hexadecimal digits, in two halves above U+FFFF.
-/
namespace SurveyDesk.Json

/-- What is written between items and behind keys. -/
structure Spacing where
  comma : List Char
  colon : List Char
  deriving Repr

/-- A space behind every comma and colon. -/
def Spacing.spaced : Spacing := ⟨[',', ' '], [':', ' ']⟩

/-- No space at all. -/
def Spacing.compact : Spacing := ⟨[','], [':']⟩

/-- The escape of a code unit. -/
def unitEscape (unit : Nat) : List Char := '\\' :: 'u' :: hexadecimal 4 unit

/-- The letter that is written behind a backslash for a character, if there is one. -/
def escapeLetter? : Char → Option Char
  | '"' => some '"'
  | '\\' => some '\\'
  | '\x08' => some 'b'
  | '\x0c' => some 'f'
  | '\n' => some 'n'
  | '\r' => some 'r'
  | '\t' => some 't'
  | _ => none

/-- A character inside a text. -/
def writtenChar (c : Char) : List Char :=
  match escapeLetter? c with
  | some letter => ['\\', letter]
  | none =>
    if 0x20 ≤ c.toNat ∧ c.toNat ≤ 0x7E then [c]
    else if c.toNat < 0x10000 then unitEscape c.toNat
    else
      let above := c.toNat - 0x10000
      unitEscape (0xD800 + above / 0x400) ++ unitEscape (0xDC00 + above % 0x400)

/-- A code point inside a text. -/
def writtenPoint : Point → List Char
  | .char c => writtenChar c
  | .half place => unitEscape (Point.half place).code

/-- A text in double quotes. -/
def writtenText (text : Text) : List Char :=
  '"' :: (text.points.flatMap writtenPoint ++ ['"'])

/-- The text of a value. -/
def write (spacing : Spacing) : Value → List Char
  | .null => "null".toList
  | .bool flag => (if flag then "true" else "false").toList
  | .int number => (toString number).toList
  | .float number => Decimal.Layout.document.write number
  | .str text => writtenText text
  | .list items => '[' :: (writtenItems items ++ [']'])
  | .object entries => '\x7b' :: (writtenEntries entries ++ ['\x7d'])
where
  /-- Items with commas between them. -/
  writtenItems : List Value → List Char
    | [] => []
    | [item] => write spacing item
    | item :: rest => write spacing item ++ (spacing.comma ++ writtenItems rest)
  /-- Entries with commas between them. -/
  writtenEntries : List (Text × Value) → List Char
    | [] => []
    | [(key, value)] => writtenText key ++ (spacing.colon ++ write spacing value)
    | (key, value) :: rest =>
      writtenText key ++ (spacing.colon ++ (write spacing value
        ++ (spacing.comma ++ writtenEntries rest)))

/-- A value as the key of an object: a text is itself, and a scalar the text it is written as. -/
def keyText : Value → Text
  | .str text => text
  | value => .ofChars (write .compact value)

end SurveyDesk.Json
