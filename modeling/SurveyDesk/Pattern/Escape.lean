import SurveyDesk.Json.Token
import SurveyDesk.Pattern.Source
import SurveyDesk.Unicode.CharacterName

/-!
Escapes in a search pattern: characters given by number or by name, classes, anchors and references
to groups.
-/
namespace SurveyDesk.Pattern

/-- The character that a backslash and a letter stand for. -/
def controlEscape? : Char → Option Nat
  | 'a' => some 7
  | 'b' => some 8
  | 'f' => some 12
  | 'n' => some 10
  | 'r' => some 13
  | 't' => some 9
  | 'v' => some 11
  | '\\' => some 92
  | _ => none

/-- The class that a backslash and a letter stand for. -/
def kindEscape? : Char → Option Member
  | 'd' => some (.kind .digit false)
  | 'D' => some (.kind .digit true)
  | 's' => some (.kind .space false)
  | 'S' => some (.kind .space true)
  | 'w' => some (.kind .word false)
  | 'W' => some (.kind .word true)
  | _ => none

/-- The anchor that a backslash and a letter stand for. -/
def anchorEscape? : Char → Option Anchor
  | 'A' => some .textStart
  | 'b' => some .boundary
  | 'B' => some .notBoundary
  | 'Z' => some .textEnd
  | _ => none

/-- Decimal digits. -/
def isDigitSign (c : Char) : Bool := '0' ≤ c && c ≤ '9'

/-- Octal digits. -/
def isOctalSign (c : Char) : Bool := '0' ≤ c && c ≤ '7'

/-- Hexadecimal digits. -/
def isHexSign (c : Char) : Bool := (Json.hexValue? c).isSome

/-- The letters of ASCII. -/
def isLetterSign (c : Char) : Bool := ('a' ≤ c && c ≤ 'z') || ('A' ≤ c && c ≤ 'Z')

/-- The number that digits stand for to a base of at most sixteen. -/
def inBase (base : Nat) (digits : List Char) : Nat :=
  digits.foldl (fun sum c => sum * base + (Json.hexValue? c).getD 0) 0

namespace Reading

/-- The greatest number that a character can be asked for by; greater ones are no machine
integers. -/
def codePointLimit : Nat := Nat.pow 2 31 - 1

/-- The character with a number of exactly so many hexadecimal digits. -/
def hexEscape (letter : Char) (count : Nat) : Reading Nat := do
  let digits ← takeWhile isHexSign count
  let text := ('\\' :: letter :: digits).map Point.char
  if digits.length ≠ count then failBack (.incompleteEscape text) text.length
  else
    let number := inBase 16 digits
    if codePointLimit < number then throw .codePointTooLarge
    else if 0x10FFFF < number then failBack (.badEscape text) text.length
    else return number

/-- The character with a name in braces. -/
def nameEscape : Reading Nat := do
  if ← accept '\x7b' then
    let name ← name '\x7d' "character name"
    match Point.chars? name with
    | none => throw (.nameWithSurrogate name)
    | some chars =>
      match Unicode.named? chars with
      | some number => return number
      | none => failBack (.unknownCharacterName name) (name.length + 4)
  else failHere .missingBrace

/-- The character that is given by a number or a name behind one of the letters for that. -/
def numberedChar? (letter : Char) : Option (Reading Nat) :=
  match letter with
  | 'x' => some (hexEscape 'x' 2)
  | 'u' => some (hexEscape 'u' 4)
  | 'U' => some (hexEscape 'U' 8)
  | 'N' => some nameEscape
  | _ => none

/-- A character that stands for itself behind a backslash; letters and digits do not. -/
def plainEscape (c : Char) : Reading Nat := do
  if isLetterSign c || isDigitSign c then failBack (.badEscape [.char '\\', .char c]) 2
  else return c.toNat

/-- The greatest character that an octal number may ask for. -/
def octalLimit : Nat := 0o377

/-- The character with an octal number. -/
def octalChar (digits : List Char) : Reading Nat := do
  let number := inBase 8 digits
  if octalLimit < number then
    failBack (.octalTooLarge (('\\' :: digits).map Point.char)) (digits.length + 1)
  else return number

/-- An escape inside a character set. -/
def memberEscape (c : Char) : Reading Member := do
  match controlEscape? c, kindEscape? c, numberedChar? c with
  | some number, _, _ => return .char number
  | none, some member, _ => return member
  | none, none, some read => return .char (← read)
  | none, none, none =>
    if isOctalSign c then
      return .char (← octalChar (c :: (← takeWhile isOctalSign 2)))
    else return .char (← plainEscape c)

/-- Whether a group is closed. -/
def isClosed (group : Nat) : Reading Bool := do
  return ((← get).groups[group]?).any Option.isSome

/-- Refuses a reference, from inside a text that is looked at backwards, to a group that is open
or belongs to that text. -/
def checkLookbehind (group : Nat) : Reading Unit := do
  match (← get).lookbehindGroups with
  | none => return ()
  | some outside =>
    if !(← isClosed group) then failHere .openGroup
    else if outside ≤ group then failHere .groupInSameLookbehind

/-- A reference to a group by a number that is written `length` characters long. -/
def groupReference (group length : Nat) : Reading Node := do
  if (← get).groups.length ≤ group then failBack (.unknownGroup group) (length - 1)
  else if !(← isClosed group) then failBack .openGroup length
  else
    checkLookbehind group
    return .reference group

/-- A digit behind a backslash: three octal digits are a character, one or two digits otherwise
a reference to a group. -/
def digitEscape (c : Char) : Reading Node := do
  if c = '0' then return .char false (inBase 8 ('0' :: (← takeWhile isOctalSign 2)))
  else
    match ← takeWhile isDigitSign 1 with
    | [second] =>
      let third ← if isOctalSign c && isOctalSign second then takeWhile isOctalSign 1 else pure []
      match third with
      | [third] => return .char false (← octalChar [c, second, third])
      | _ => groupReference (inBase 10 [c, second]) 3
    | _ => groupReference (inBase 10 [c]) 2

/-- An escape outside character sets. -/
def nodeEscape (c : Char) : Reading Node := do
  match anchorEscape? c, kindEscape? c, controlEscape? c, numberedChar? c with
  | some anchor, _, _, _ => return .anchor anchor
  | none, some member, _, _ => return .set false [member]
  | none, none, some number, _ => return .char false number
  | none, none, none, some read => return .char false (← read)
  | none, none, none, none =>
    if isDigitSign c then digitEscape c else return .char false (← plainEscape c)

end Reading
end SurveyDesk.Pattern
