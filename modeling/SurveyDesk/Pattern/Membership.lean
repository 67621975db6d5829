import SurveyDesk.Pattern.Node
import SurveyDesk.Unicode.Blank
import SurveyDesk.Unicode.Letter
import SurveyDesk.Unicode.Numeric
import SurveyDesk.Unicode.UpperCase

/-!
Which characters the parts of a pattern match that take just one. Where case is ignored, two
characters are the same if their lower-case forms are, or if these share an upper-case form. In a
set this holds up to U+FFFF only: a single character beyond is compared with the lower-case form
alone, and a range that goes beyond with the upper-case form of that as well.
-/
namespace SurveyDesk.Pattern

namespace Kind

/-- Whether a code point belongs to a class. Under the ASCII flag the classes know ASCII only. -/
def holds (ascii : Bool) (point : Nat) : Kind → Bool
  | .digit => if ascii then isDigitPoint point else Unicode.isDigit point
  | .space =>
    if ascii then (9 ≤ point && point ≤ 13) || point = 32 else Unicode.isBlank point
  | .word =>
    point = 95 ||
      (if ascii then
        isDigitPoint point || (65 ≤ point && point ≤ 90) || (97 ≤ point && point ≤ 122)
      else Unicode.isLetter point || Unicode.isDigit point || Unicode.isNumericSign point)
where
  /-- The digits of ASCII. -/
  isDigitPoint (point : Nat) : Bool := 48 ≤ point && point ≤ 57

end Kind

/-- The code point of the line feed. -/
def lineFeed : Nat := 10

/-- The form under which a code point is compared. -/
def compared (flags : Flags) (point : Nat) : Nat :=
  if !flags.ignoreCase then point
  else if flags.ascii then Unicode.lowerCaseAscii point
  else Unicode.lowerCase point

/-- The forms that are the same character as a form. -/
def sameForms (flags : Flags) (form : Nat) : List Nat :=
  if flags.ignoreCase && !flags.ascii then Unicode.sameLetter form else [form]

/-- The code points that are compared under a form, or under one that is the same character. -/
def variants (flags : Flags) (form : Nat) : List Nat :=
  if !flags.ignoreCase then [form]
  else if flags.ascii then
    if 97 ≤ form ∧ form ≤ 122 then [form, form - 32] else [form]
  else Unicode.caseVariants form

/-- Whether a code point is the same character as the one that is wanted. -/
def charHolds (flags : Flags) (wanted point : Nat) : Bool :=
  if flags.ignoreCase then
    (sameForms flags (compared flags wanted)).contains (compared flags point)
  else point = wanted

/-- The last code point up to which sets know letter case in full. -/
def lastFolded : Nat := 0xFFFF

/-- Whether a member of a set holds a code point, given the form under which it is compared. -/
def Member.holds (flags : Flags) (form : Nat) : Member → Bool
  | .char point =>
    if point ≤ lastFolded then charHolds flags point form else form = point
  | .range low high =>
    let spans (point : Nat) : Bool := low ≤ point && point ≤ high
    if !flags.ignoreCase then spans form
    else
      ((variants flags form).any fun point => spans point && point ≤ lastFolded)
        || (lastFolded < high && (spans form || spans (Unicode.upperCase form)))
  | .kind sort negated => sort.holds flags.ascii form != negated

/-- Whether a set holds a code point. -/
def setHolds (flags : Flags) (negated : Bool) (members : List Member) (point : Nat) : Bool :=
  members.any (Member.holds flags (compared flags point)) != negated

/-- The test of the one character that a part takes, for a part that takes one. -/
def Node.test? (flags : Flags) : Node → Option (Nat → Bool)
  | .char negated wanted => some fun point => charHolds flags wanted point != negated
  | .set negated members => some (setHolds flags negated members)
  | .anyChar => some fun point => flags.dotAll || point ≠ lineFeed
  | _ => none

/-! ## What does not depend on letter case -/

/-- Whether letter case matters for a code point, that is, whether it is a letter that the flags
know in two cases. -/
def isCased (flags : Flags) (point : Nat) : Bool :=
  flags.ignoreCase
    && (if flags.ascii then (65 ≤ point && point ≤ 90) || (97 ≤ point && point ≤ 122)
      else Unicode.isCased point)

/-- Whether letter case matters for any code point of a range. -/
def anyCased (flags : Flags) (low high : Nat) : Bool :=
  flags.ignoreCase
    && (if flags.ascii then (low ≤ 90 && 65 ≤ high) || (low ≤ 122 && 97 ≤ high)
      else Unicode.anyCased low high)

/-- Whether a member of a set is looked up by lower-case forms. -/
def Member.isFolded (flags : Flags) : Member → Bool
  | .char point => isCased flags point || (flags.ignoreCase && lastFolded < point)
  | .range low high => anyCased flags low high || (flags.ignoreCase && lastFolded < high)
  | .kind _ _ => false

/-- Whether a part that takes one character looks it up by lower-case forms in a set. A single
character makes up a set with those that share an upper-case form with it. -/
def Node.isFolded (flags : Flags) : Node → Bool
  | .char _ wanted =>
    isCased flags wanted && 1 < (sameForms flags (compared flags wanted)).length
  | .set _ members => members.any (Member.isFolded flags)
  | _ => false

/-- The test of a part that takes one character, if letter case does not matter for it. The parts
that take any character, or any but one, are left out. -/
def Node.plainTest? (flags : Flags) : Node → Option (Nat → Bool)
  | .char false wanted => if isCased flags wanted then none else some fun point => point = wanted
  | .set negated members =>
    if members.any (Member.isFolded flags) then none else some (setHolds flags negated members)
  | _ => none

/-- The one character that a part matches, if it is one. -/
def Node.fixedChar? (flags : Flags) : Node → Option Nat
  | .char false wanted => if isCased flags wanted then none else some wanted
  | _ => none

end SurveyDesk.Pattern
