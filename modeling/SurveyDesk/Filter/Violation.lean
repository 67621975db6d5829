import SurveyDesk.Filter.Tree

/-!
What is wrong with the shape of a filter or of a sort list. Every violation has the path that
leads to the offending value. Of several the one with the least path is reported, and of several
at one path the first.
-/
namespace SurveyDesk.Filter

/-- A step into a value: the place in a list or the key in an object. -/
inductive Step where
  | index (place : Nat)
  | key (name : String)
  deriving DecidableEq, Repr

/-- Whether one step comes before another: smaller places come before larger ones, and keys are in
their own order. A place and a key cannot be compared. -/
def Step.before? : Step → Step → Option Bool
  | .index a, .index b => some (a < b)
  | .key a, .key b => some (a < b)
  | .index _, .key _ | .key _, .index _ => none

/-- A step as it is written in a report. -/
def Step.text : Step → List Char
  | .index place => (toString place).toList
  | .key name => name.toList

/-- Whether one path comes before another, or nothing where the two cannot be compared. The first
steps that differ decide, and a path comes before its extensions. -/
def pathBefore? : List Step → List Step → Option Bool
  | _, [] => some false
  | [], _ :: _ => some true
  | a :: as, b :: bs => if a = b then pathBefore? as bs else a.before? b

/-- What a value does not meet: to be of a kind, to have a key, or to be one of the forms that are
allowed in its place. -/
inductive Requirement where
  | kind (name : String)
  | required (key : String)
  | someForm
  deriving DecidableEq, Repr

/-- A value that does not meet a requirement, and the path to it. -/
structure Violation where
  path : List Step
  value : Value
  requirement : Requirement
  deriving Repr

namespace Violation

/-- The steps of a path with slashes between them. -/
def joined : List Step → List Char
  | [] => []
  | [step] => step.text
  | step :: rest => step.text ++ '/' :: joined rest

/-- The place that a path is reported as: its steps, or the root where these are no text at all. -/
def place (path : List Step) : List Char :=
  if (joined path).isEmpty then "<root>".toList else joined path

/-- What is reported about the value. -/
def reason (violation : Violation) : List Char :=
  match violation.requirement with
  | .kind name =>
    violation.value.literal ++ " is not of type ".toList ++ Literal.quoted (name : Text).points
  | .required key => Literal.quoted (key : Text).points ++ " is a required property".toList
  | .someForm => violation.value.literal ++ " is not valid under any of the given schemas".toList

/-- The report of a violation. -/
def message (violation : Violation) : String :=
  String.ofList (place violation.path ++ ':' :: ' ' :: violation.reason)

/-- Whether each path can be compared with every other. -/
def comparable (violations : List Violation) : Bool :=
  violations.all fun a => violations.all fun b => (pathBefore? a.path b.path).isSome

/-- A violation put before the first of several whose path does not come before its own. -/
def insert (violation : Violation) : List Violation → List Violation
  | [] => [violation]
  | other :: rest =>
    if pathBefore? other.path violation.path = some true then other :: insert violation rest
    else violation :: other :: rest

/-- Violations in the order of their paths; those at one path keep their order. -/
def sorted : List Violation → List Violation
  | [] => []
  | violation :: rest => insert violation (sorted rest)

/-- The first violation in the order of the paths. -/
def least? (violations : List Violation) : Option Violation := (sorted violations).head?

end Violation
end SurveyDesk.Filter
