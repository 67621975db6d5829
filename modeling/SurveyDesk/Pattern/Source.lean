import SurveyDesk.Pattern.Fault
import SurveyDesk.Pattern.Width

/-!
The code points of a pattern as they are read: one by one, a backslash together with what stands
behind it. A backslash at the end of the pattern is reported as soon as it comes next.
-/
namespace SurveyDesk.Pattern

/-- A code point, with or without a backslash before it. -/
structure Mark where
  escaped : Bool
  point : Point
  deriving DecidableEq, Repr

namespace Mark

/-- A mark as it is written in the pattern. -/
def text (mark : Mark) : List Point :=
  if mark.escaped then [.char '\\', mark.point] else [mark.point]

/-- The number of code points that a mark takes in the pattern. -/
def length (mark : Mark) : Nat := if mark.escaped then 2 else 1

/-- Whether a mark is this character, without a backslash. -/
def is (mark : Mark) (c : Char) : Bool := !mark.escaped && mark.point = c

/-- Whether a mark is a character of a class, without a backslash. -/
def isA (mark : Mark) (holds : Char → Bool) : Bool := !mark.escaped && mark.point.isA holds

end Mark

/-- The marks of a pattern, and whether a backslash with nothing behind it follows them. -/
def marks : List Point → List Mark × Bool
  | [] => ([], false)
  | [.char '\\'] => ([], true)
  | .char '\\' :: point :: rest =>
    let (following, dangling) := marks rest
    (⟨true, point⟩ :: following, dangling)
  | point :: rest =>
    let (following, dangling) := marks rest
    (⟨false, point⟩ :: following, dangling)

/-- How far a pattern has been read: the marks ahead and the position of the next, and what the
parts already read leave for those that follow. `groups` holds the width of each group that is
closed, starting with the whole pattern, which is not, and `calls` counts the calls that are open
for the groups around the next mark. -/
structure Progress where
  ahead : List Mark
  position : Nat
  dangling : Bool
  length : Nat
  flags : Flags
  names : List (List Point × Nat)
  groups : GroupWidths
  lookbehindGroups : Option Nat
  conditionGroups : List (Nat × Nat)
  calls : Nat

/-- Reading a part of a pattern. -/
abbrev Reading := StateT Progress (Except Fault)

namespace Reading

/-- Reports a fault some characters before the next mark. -/
def failBack {α : Type} (cause : Cause) (back : Nat) : Reading α := do
  throw (.malformed cause (some ((← get).position - back)))

/-- Reports a fault at the next mark. -/
def failHere {α : Type} (cause : Cause) : Reading α := failBack cause 0

/-- Reports a fault at a position. -/
def failAt {α : Type} (cause : Cause) (position : Nat) : Reading α :=
  throw (.malformed cause (some position))

/-- How many calls may be open for the groups around a mark. -/
def callLimit : Nat := 982

/-- Reads something inside a group, for which so many more calls are open. -/
def inside {α : Type} (calls : Nat) (reading : Reading α) : Reading α := do
  let around := (← get).calls
  if callLimit < around + calls then throw .nestedTooDeeply
  else
    modify fun progress => { progress with calls := around + calls }
    let read ← reading
    modify fun progress => { progress with calls := around }
    return read

/-- The next mark, nothing at the end of the pattern. -/
def peek : Reading (Option Mark) := do return (← get).ahead.head?

/-- The position of the next mark. -/
def position : Reading Nat := do return (← get).position

/-- Refuses a backslash that comes next and has nothing behind it. -/
def checkDangling : Reading Unit := do
  let progress ← get
  if progress.ahead.isEmpty && progress.dangling then
    throw (.malformed .trailingBackslash (some (progress.length - 1)))

/-- Takes the next mark. -/
def next : Reading (Option Mark) := do
  let progress ← get
  match progress.ahead with
  | [] => return none
  | mark :: rest =>
    set { progress with ahead := rest, position := progress.position + mark.length }
    checkDangling
    return some mark

/-- Takes the next mark if it is this character. -/
def accept (c : Char) : Reading Bool := do
  match ← peek with
  | some mark => if mark.is c then let _ ← next; return true else return false
  | none => return false

/-- Takes marks of a class, at most `limit` of them. -/
def takeWhile (holds : Char → Bool) : (limit : Nat) → Reading (List Char)
  | 0 => return []
  | limit + 1 => do
    match ← peek with
    | some mark =>
      match mark with
      | ⟨false, .char c⟩ =>
        if holds c then
          let _ ← next
          return c :: (← takeWhile holds limit)
        else return []
      | _ => return []
    | none => return []

/-- Takes marks of a class, as many as there are. -/
def takeAll (holds : Char → Bool) : Reading (List Char) := do
  takeWhile holds (← get).ahead.length

/-- Skips marks up to and with this character, or to the end; tells whether it was there. -/
def skipPast (c : Char) : (limit : Nat) → Reading Bool
  | 0 => return false
  | limit + 1 => do
    match ← next with
    | some mark => if mark.is c then return true else skipPast c limit
    | none => return false

/-- Takes a name up to its closing character; `read` is what has been read of it. -/
def takeName (closing : Char) (what : String) : (limit : Nat) → (read : List Point) →
    Reading (List Point)
  | 0, _ => failHere (.missingName what)
  | limit + 1, read => do
    match ← next with
    | none =>
      if read.isEmpty then failHere (.missingName what)
      else failBack (.unterminatedName closing) read.length
    | some mark =>
      if mark.is closing then
        if read.isEmpty then failBack (.missingName what) 1 else return read
      else takeName closing what limit (read ++ mark.text)

/-- A name up to its closing character. -/
def name (closing : Char) (what : String) : Reading (List Point) := do
  takeName closing what ((← get).ahead.length + 1) []

end Reading
end SurveyDesk.Pattern
