/-!
Texts. A text is a string of characters as a rule. Half a surrogate pair on its own is no character,
and yet a text can hold it: an escape in a JSON text can ask for it, and the octets of a body can
bring it. There the text is torn, and goes on behind it as a text again, so that a text has one form
only.
-/
namespace SurveyDesk

/-- A code point: a character, or a surrogate by its place among them. -/
inductive Point where
  | char (c : Char)
  | half (place : Fin 0x800)
  deriving DecidableEq, Repr

instance : Coe Char Point := ⟨Point.char⟩

namespace Point

/-- The number of a code point. -/
def code : Point → Nat
  | .char c => c.toNat
  | .half place => 0xD800 + place.val

/-- The code point with a number. -/
def ofCode (code : Nat) : Point :=
  if half : 0xD800 ≤ code ∧ code < 0xE000 then .half ⟨code - 0xD800, by omega⟩
  else .char (Char.ofNat code)

/-- The characters that code points are, if all of them are. -/
def chars? : List Point → Option (List Char)
  | [] => some []
  | .char c :: rest => (chars? rest).map (c :: ·)
  | .half _ :: _ => none

/-- Whether a code point is a character of a class. -/
def isA (holds : Char → Bool) : Point → Bool
  | .char c => holds c
  | .half _ => false

end Point

/-- A text, which is whole or torn at its first surrogate. -/
inductive Text where
  | whole (string : String)
  | torn (front : String) (place : Fin 0x800) (rest : Text)
  deriving DecidableEq, Repr

instance : Coe String Text := ⟨Text.whole⟩

instance : Inhabited Text := ⟨.whole ""⟩

namespace Text

/-- The code points of a text. -/
def points : Text → List Point
  | .whole string => string.toList.map .char
  | .torn front place rest => front.toList.map .char ++ .half place :: points rest

/-- The text with these code points, behind characters that are kept last first. -/
def ofPointsBehind (front : List Char) : List Point → Text
  | [] => .whole (String.ofList front.reverse)
  | .char c :: rest => ofPointsBehind (c :: front) rest
  | .half place :: rest => .torn (String.ofList front.reverse) place (ofPointsBehind [] rest)

/-- The text with these code points. -/
def ofPoints (points : List Point) : Text := ofPointsBehind [] points

/-- The text with these characters. -/
def ofChars (chars : List Char) : Text := .whole (String.ofList chars)

/-- Two texts behind one another. -/
def append (first second : Text) : Text := ofPoints (first.points ++ second.points)

instance : Append Text := ⟨append⟩

/-- Whether a text holds no surrogate. Only such a text has octets. -/
def isWhole : Text → Bool
  | .whole _ => true
  | .torn _ _ _ => false

/-- Whether a text comes before another, by the numbers of their code points. -/
def before (a b : Text) : Bool := a.points.map Point.code < b.points.map Point.code

/-- The parts of a text between separators; there is one more of them than there are separators. -/
def partsAt {α : Type} [DecidableEq α] (separator : α) : List α → List (List α)
  | [] => [[]]
  | sign :: rest =>
    if sign = separator then [] :: partsAt separator rest
    else match partsAt separator rest with
      | part :: parts => (sign :: part) :: parts
      | [] => [[sign]]

end Text
end SurveyDesk
