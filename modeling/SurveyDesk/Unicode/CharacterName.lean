import SurveyDesk.Unicode.Bounds
import SurveyDesk.Unicode.Name.Alias
import SurveyDesk.Unicode.Name.Ancient
import SurveyDesk.Unicode.Name.Eastern
import SurveyDesk.Unicode.Name.Emblem
import SurveyDesk.Unicode.Name.Further
import SurveyDesk.Unicode.Name.Notation
import SurveyDesk.Unicode.Name.Pictorial
import SurveyDesk.Unicode.Name.Presentation
import SurveyDesk.Unicode.Name.Shape
import SurveyDesk.Unicode.Name.Sign
import SurveyDesk.Unicode.Name.Southern
import SurveyDesk.Unicode.Name.Western

/-!
Names of characters in Unicode 14. Most names stand in tables. The names of Korean syllables are
made up of the names of their letters, and those of some ideographs and characters of a few other
scripts of their code points. A name in a table is found in capital or small letters alike.
-/
namespace SurveyDesk.Unicode

/-! ## Names in tables -/

/-- The words of a name, each with the space or the hyphen behind it. -/
def wordsOf : List Char → List (List Char)
  | [] => []
  | c :: rest =>
    if c = ' ' ∨ c = '-' then [c] :: wordsOf rest
    else match wordsOf rest with
      | word :: words => (c :: word) :: words
      | [] => [[c]]

/-- A name in a table: how many words at its front it shares with the name before it, and its
other words. -/
structure NameEntry where
  point : Nat
  shared : Nat
  others : List (List Char)
  deriving Repr

/-- The parts of a text that start with small letters, each letter being counted from `a`. -/
def letteredParts (text : List Char) : List (Nat × List Char) :=
  (text.foldr (fun c (part, parts) =>
    if c.isLower then ([], (c.toNat - 97, part) :: parts) else (c :: part, parts)) ([], [])).2

/-- The names in a row of a table, whose characters follow one another from a code point on. -/
def rowEntries (row : Nat × String) : List NameEntry :=
  (letteredParts row.2.toList).mapIdx fun place part =>
    ⟨row.1 + place, part.1, wordsOf part.2⟩

/-- The code point of the name with these words, among entries that follow another name. -/
def searchEntries (wanted before : List (List Char)) : List NameEntry → Option Nat
  | [] => none
  | entry :: rest =>
    let name := before.take entry.shared ++ entry.others
    if name = wanted then some entry.point else searchEntries wanted name rest

/-- The tables of names. -/
def nameTables : List (List (Nat × String)) :=
  [westernNames, southernNames, furtherNames, signNames, shapeNames, easternNames,
    presentationNames, ancientNames, pictorialNames, notationNames, emblemNames]

/-- The code point of a name in a table. -/
def tabledName? (name : List Char) : Option Nat :=
  let wanted := wordsOf name
  (nameTables.findSome? fun rows => searchEntries wanted [] (rows.flatMap rowEntries))
    <|> (aliasNames.find? (·.2.toList = name)).map Prod.fst

/-! ## Names made up of code points -/

/-- The number with hexadecimal digits, of which letters are capital. -/
def hexNumber? (digits : List Char) : Option Nat :=
  digits.foldlM (fun sum c =>
    if '0' ≤ c ∧ c ≤ '9' then some (sum * 16 + (c.toNat - 48))
    else if 'A' ≤ c ∧ c ≤ 'F' then some (sum * 16 + (c.toNat - 55))
    else none) 0

/-- The text behind another that a text starts with. -/
def behind? (start : String) (text : List Char) : Option (List Char) :=
  if start.toList.isPrefixOf text then some (text.drop start.length) else none

/-- Bounds of the unified ideographs. -/
def ideographBounds : Array Nat := #[
  0x3400, 0x4DC0, 0x4E00, 0xA000, 0x20000, 0x2A6E0, 0x2A700, 0x2B739, 0x2B740, 0x2B81E, 0x2B820,
  0x2CEA2, 0x2CEB0, 0x2EBE1, 0x30000, 0x3134B]

/-- The unified ideograph with a name. The name ends in four or five digits, which may start with
a zero. -/
def ideographName? (name : List Char) : Option Nat := do
  let digits ← behind? "CJK UNIFIED IDEOGRAPH-" name
  if digits.length < 4 ∨ 5 < digits.length then none
  else
    let point ← hexNumber? digits
    if within ideographBounds point then some point else none

/-- What the names of characters start with that end in the code point, and the bounds of these
characters. -/
def numberedNames : List (String × Array Nat) := [
  ("CJK COMPATIBILITY IDEOGRAPH-", #[0xF900, 0xFA6E, 0xFA70, 0xFADA, 0x2F800, 0x2FA1E]),
  ("KHITAN SMALL SCRIPT CHARACTER-", #[0x18B00, 0x18CD6]),
  ("NUSHU CHARACTER-", #[0x1B170, 0x1B2FC])]

/-- The character whose name ends in its code point, written without needless zeros. -/
def numberedName? (name : List Char) : Option Nat :=
  numberedNames.findSome? fun (start, bounds) => do
    let digits ← behind? start name
    let point ← hexNumber? digits
    if within bounds point && digits.head? ≠ some '0' then some point else none

/-- The variation selector with an abbreviated name. -/
def selectorName? (name : List Char) : Option Nat := do
  let number ← (List.range 256).find? fun n => "VS".toList ++ Nat.toDigits 10 (n + 1) = name
  return if number < 16 then 0xFE00 + number else 0xE0100 + (number - 16)

/-! ## Names of syllables -/

/-- The names of the consonants that a syllable may start with. -/
def leadingNames : List String :=
  ["G", "GG", "N", "D", "DD", "R", "M", "B", "BB", "S", "SS", "", "J", "JJ", "C", "K", "T", "P",
    "H"]

/-- The names of the vowels of a syllable. -/
def vowelNames : List String :=
  ["A", "AE", "YA", "YAE", "EO", "E", "YEO", "YE", "O", "WA", "WAE", "OE", "YO", "U", "WEO", "WE",
    "WI", "YU", "EU", "YI", "I"]

/-- The names of the consonants that a syllable may end in. -/
def trailingNames : List String :=
  ["", "G", "GG", "GS", "N", "NJ", "NH", "D", "L", "LG", "LM", "LB", "LS", "LT", "LP", "LH", "M",
    "B", "BS", "S", "SS", "NG", "J", "C", "K", "T", "P", "H"]

/-- The longest of several texts that a text starts with: its place, and what follows it. -/
def longestStart? (starts : List String) (text : List Char) : Option (Nat × List Char) :=
  let places := starts.mapIdx fun place start => (behind? start text).map fun rest => (place, rest)
  (places.filterMap id).foldl (fun best candidate =>
    match best with
    | none => some candidate
    | some chosen =>
      if candidate.2.length < chosen.2.length then some candidate else some chosen) none

/-- The syllable with a name. -/
def syllableName? (name : List Char) : Option Nat := do
  let text ← behind? "HANGUL SYLLABLE " name
  let (leading, text) ← longestStart? leadingNames text
  let (vowel, text) ← longestStart? vowelNames text
  let (trailing, text) ← longestStart? trailingNames text
  if text.isEmpty then some (0xAC00 + (leading * 21 + vowel) * 28 + trailing) else none

/-! ## All names -/

/-- The code point of the character with a name. -/
def named? (name : List Char) : Option Nat :=
  let capitals := name.map Char.toUpper
  syllableName? name <|> ideographName? name <|> numberedName? capitals
    <|> selectorName? capitals <|> tabledName? capitals

end SurveyDesk.Unicode
