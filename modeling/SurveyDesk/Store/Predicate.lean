import SurveyDesk.Fault
import SurveyDesk.Pattern.Search
import SurveyDesk.Store.Path
import SurveyDesk.Value.Equality

/-!
Predicates over documents. A predicate is an object: every key is a dotted path and its value says
what is expected there, except the key `OR`, which holds alternatives of which one must hold. What
is expected is a value, an object with exactly the keys `op` and `value` that names an operator, or
a predicate over the object at the path.
-/
namespace SurveyDesk.Predicate

/-- The key that holds alternatives. -/
def orKey : Text := "OR"

/-- The key of an operator. -/
def operatorKey : Text := "op"

/-- The key of an operator's operand. -/
def operandKey : Text := "value"

/-- The operators that a predicate can name. -/
inductive Operator where
  | notEqual
  | regexMatch
  deriving DecidableEq, Repr

/-- The name of an operator. -/
def Operator.name : Operator → Text
  | .notEqual => "NOT_EQUAL"
  | .regexMatch => "REGEX_MATCH"

/-- The operator with a name. -/
def Operator.ofName? (name : Text) : Option Operator :=
  if name = Operator.notEqual.name then some .notEqual
  else if name = Operator.regexMatch.name then some .regexMatch
  else none

/-- An operator with its operand, as a predicate holds it. -/
def Operator.fragment (operator : Operator) (operand : Value) : Value :=
  .object [(operatorKey, .str operator.name), (operandKey, operand)]

/-- The operator and the operand that an object stands for, if it is one. A list or an object
cannot be looked up among the operators. -/
def fragment? (entries : Entries) : Except Fault (Option (Operator × Value)) :=
  if entries.length ≠ 2 then .ok none
  else
    match entries.get? operatorKey, entries.get? operandKey with
    | some (.list _), some _ | some (.object _), some _ => .error .wrongKind
    | some (.str name), some operand => .ok ((Operator.ofName? name).map (·, operand))
    | _, _ => .ok none

/-- Whether a pattern, given as any value, is found in a text. -/
def found (pattern : Value) (text : Text) : Except Fault Bool :=
  match Pattern.ofText pattern.asText with
  | .ok compiled => (compiled.occursIn text).mapError (.badPattern pattern)
  | .error fault => .error (.badPattern pattern fault)

/-- Whether an operator holds of the value at a path. A missing value differs from everything,
and neither a missing value nor null has text to search. -/
def Operator.holds (actual : Option Value) (operand : Value) : Operator → Except Fault Bool
  | .notEqual =>
    match actual with
    | none => .ok true
    | some value => .ok (!value.equals operand)
  | .regexMatch =>
    match actual with
    | none | some .null => .ok false
    | some value => found operand value.asText

mutual

/-- Whether a document satisfies a predicate. -/
def holds (document : Value) : Value → Except Fault Bool
  | .object entries => holdsAll document entries
  | _ => .error .missingFeature

/-- Whether a document satisfies all entries of a predicate, tried in order. -/
def holdsAll (document : Value) : List (Text × Value) → Except Fault Bool
  | [] => .ok true
  | (key, expected) :: rest => do
    let satisfied ←
      if key = orKey then alternativesHold document expected
      else expectedHolds (document.at? key) expected
    if satisfied then holdsAll document rest else return false

/-- Whether one of the alternatives holds. Alternatives that are no list hold no predicate. -/
def alternativesHold (document : Value) : Value → Except Fault Bool
  | .list branches => holdsAny document branches
  | .str text => if text = "" then .ok false else .error .missingFeature
  | .object entries => if entries.isEmpty then .ok false else .error .missingFeature
  | _ => .error .wrongKind

/-- Whether a document satisfies one of several predicates, tried in order. -/
def holdsAny (document : Value) : List Value → Except Fault Bool
  | [] => .ok false
  | branch :: rest => do
    if ← holds document branch then return true else holdsAny document rest

/-- Whether the value at a path is as expected; nothing is at a path that leads nowhere, and then
only null is expected. -/
def expectedHolds (actual : Option Value) : Value → Except Fault Bool
  | .object entries => do
    match ← fragment? entries with
    | some (operator, operand) => operator.holds actual operand
    | none =>
      match actual with
      | some (.object inner) => holdsAll (.object inner) entries
      | _ => return false
  | expected =>
    match actual with
    | some value => .ok (value.equals expected)
    | none => .ok (match expected with | .null => true | _ => false)

end

end SurveyDesk.Predicate
