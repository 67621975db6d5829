import SurveyDesk.Filter.SortRequest
import SurveyDesk.Query.Limits
import SurveyDesk.Store.Predicate

/-!
Compiling filters into predicates and sort requests into sort specifications. Only fields that are
allowed reach the result, and conditions with an unknown comparator are left out. Of several
conditions on one field the last is kept, in the place of the first.
-/
namespace SurveyDesk.Query

open SurveyDesk.Filter (Item Condition Content Combinator SortRequest)

/-- What a compiler allows: the fields that filters and sort requests may name, the limits on
filters, and, if it is strict, no field twice in one group. -/
structure Compiler where
  filterFields : List Text
  sortFields : List Text
  limits : Limits
  strict : Bool
  deriving Repr

namespace Compiler

/-- The fields of a survey that filters may name. -/
def surveyFilterFields : List Text := ["title", "remark", "questionType", "curStatus.status"]

/-- The fields of a survey that sort requests may name. -/
def surveySortFields : List Text := ["createDate", "updateDate", "curStatus.date"]

/-- The compiler for lists of surveys. -/
def standard : Compiler := ⟨surveyFilterFields, surveySortFields, .standard, false⟩

end Compiler

/-- The field that a value names, if it is allowed. Lists and objects cannot be looked up. -/
def allowed? (fields : List Text) : Value → Except Refusal (Option Text)
  | .str field => .ok (if fields.contains field then some field else none)
  | .list _ | .object _ => .error (.fault .wrongKind)
  | _ => .ok none

/-- The operator that a comparator stands for. -/
def operatorOf? : Value → Option Predicate.Operator
  | .str comparator =>
    if comparator = "$ne" then some .notEqual
    else if comparator = "$regex" then some .regexMatch
    else none
  | _ => none

/-- What a predicate expects for a comparator and a compiled value; nothing for an unknown
comparator. -/
def expectation? (comparator compiled : Value) : Option Value :=
  match comparator with
  | .null => some compiled
  | comparator => (operatorOf? comparator).map (·.fragment compiled)

/-- A predicate with one more alternative. -/
def withAlternative (predicate : Entries) (alternative : Value) : Except Refusal Entries :=
  match predicate.get? Predicate.orKey with
  | none => .ok (predicate.put Predicate.orKey (.list [alternative]))
  | some (.list others) =>
    .ok (predicate.put Predicate.orKey (.list (others ++ [alternative])))
  | some _ => .error (.fault .missingFeature)

/-- A predicate with the compiled conditions of an item joined to it. -/
def joined (combinator : Combinator) (predicate conditions : Entries) :
    Except Refusal Entries :=
  match combinator with
  | .every => .ok (predicate.putAll conditions)
  | .either => withAlternative predicate (.object conditions)

mutual

/-- The predicate of a list of items, joined to what has been compiled before them. -/
def compileItems (compiler : Compiler) (compiled : Entries) :
    List Item → Except Refusal Entries
  | [] => .ok compiled
  | .group combinator conditions :: rest => do
    let conditions ← compileConditions compiler [] conditions
    compileItems compiler (← joined combinator compiled conditions) rest

/-- The predicate of the conditions of one item, joined to what has been compiled before them. -/
def compileConditions (compiler : Compiler) (compiled : Entries) :
    List Condition → Except Refusal Entries
  | [] => .ok compiled
  | .compare field comparator content :: rest => do
    match ← allowed? compiler.filterFields field with
    | none => compileConditions compiler compiled rest
    | some field =>
      match expectation? comparator (← compileContent compiler content) with
      | none => compileConditions compiler compiled rest
      | some expected =>
        if compiler.strict && compiled.has field then throw (.repeatedField field)
        else compileConditions compiler (compiled.put field expected) rest

/-- What a condition compares with, compiled. -/
def compileContent (compiler : Compiler) : Content → Except Refusal Value
  | .scalar value => .ok value
  | .nested items => do return .object (← compileItems compiler [] items)

end

namespace Compiler

/-- The predicate of a filter. -/
def compileFilter (compiler : Compiler) (items : List Item) : Except Refusal Entries := do
  compiler.limits.check items
  compileItems compiler [] items

/-- The direction of a sort request in a sort specification. -/
def direction (request : SortRequest) : Value := .int (if request.ascending then 1 else -1)

/-- The sort specification of sort requests. -/
def compileSort (compiler : Compiler) (requests : List SortRequest) : Except Refusal Entries :=
  requests.foldlM (fun compiled request => do
    match ← allowed? compiler.sortFields request.field with
    | none => return compiled
    | some field => return compiled.put field (direction request)) ([] : Entries)

end Compiler

/-- The report of a refusal, for those that have one. -/
def Refusal.message? : Refusal → Option Text
  | .tooManyLevels limit =>
    some (.whole ("filter nesting exceeds " ++ toString limit ++ " levels"))
  | .tooManyConditions limit =>
    some (.whole ("filter has more than " ++ toString limit ++ " conditions"))
  | .repeatedField field =>
    some ("field " ++ Text.ofChars (Literal.quoted field.points)
      ++ " appears more than once in one filter item")
  | .fault cause => cause.message?

end SurveyDesk.Query
