import SurveyDesk.Filter.Tree
import SurveyDesk.Value.Equality

/-!
Sort requests: a field and a direction, of which only the number one means ascending.
-/
namespace SurveyDesk.Filter

/-- A sort request as it was sent. -/
structure SortRequest where
  field : Value
  direction : Value
  deriving Repr, Inhabited

namespace SortRequest

/-- Whether a request asks for ascending order: a number, and no truth value, equal to one. -/
def ascending (request : SortRequest) : Bool :=
  match request.direction with
  | .int _ | .float _ => request.direction.equals (.int 1)
  | _ => false

/-- The sort request that a value stands for. -/
def ofValue : Value → Except Fault SortRequest
  | .object entries =>
    match Entries.get? entries fieldKey with
    | some field => .ok ⟨field, (Entries.get? entries valueKey).getD .null⟩
    | none => .error .missingEntry
  | _ => .error .wrongKind

/-- The wire form of a sort request. -/
def toValue (request : SortRequest) : Value :=
  .object [(fieldKey, request.field), (valueKey, request.direction)]

end SortRequest
end SurveyDesk.Filter
