import SurveyDesk.Unicode.Bounds

/-!
Blanks: the characters with the property White_Space in Unicode 14, and the four information
separators U+001C to U+001F.
-/
namespace SurveyDesk.Unicode

/-- Where runs of blanks start and end. -/
def blankBounds : Array Nat := #[
  0x9, 0xE, 0x1C, 0x21, 0x85, 0x86, 0xA0, 0xA1, 0x1680, 0x1681, 0x2000, 0x200B, 0x2028, 0x202A,
  0x202F, 0x2030, 0x205F, 0x2060, 0x3000, 0x3001]

/-- Whether a code point is a blank. -/
def isBlank (point : Nat) : Bool := within blankBounds point

/-- Whether a code point has the property White_Space. -/
def isSpace (point : Nat) : Bool := isBlank point && !(0x1C ≤ point && point ≤ 0x1F)

/-- A text without the characters of a kind at its two ends. -/
def trimmedOf (kind : Nat → Bool) (text : List Char) : List Char :=
  let isOfKind (c : Char) := kind c.toNat
  ((text.dropWhile isOfKind).reverse.dropWhile isOfKind).reverse

/-- A text without the blanks at its two ends. -/
def trimmed (text : List Char) : List Char := trimmedOf isBlank text

end SurveyDesk.Unicode
