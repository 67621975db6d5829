import SurveyDesk.Filter.Shown
import SurveyDesk.Filter.SortRequest
import SurveyDesk.Text.QueryParameter

/-!
Reading filters and sort lists from what a client sends: a text that holds them as JSON, perhaps
percent-encoded, or the value itself.
-/
namespace SurveyDesk.Filter

/-- Why a payload is refused: it is no JSON, it is nested too deeply, or its shape is wrong.
`unreadable` is for what cannot be sorted, and for what has been checked and yet cannot be read;
neither arises. -/
inductive Rejection where
  | notJson (fault : Json.Fault) (source : List Point)
  | tooDeep
  | misshapen (violation : Violation)
  | unreadable (fault : Fault)
  deriving Repr

/-- The report of a rejection of what is called `what`. -/
def Rejection.message (what : String) : Rejection → Text
  | .notJson fault source => what ++ " is not valid JSON: " ++ fault.message source
  | .tooDeep => what ++ " is nested too deeply"
  | .misshapen violation => violation.message
  | .unreadable fault => fault.message?.getD ""

/-- The value of a payload. -/
def payloadValue : Value → Except Rejection Value
  | .str raw =>
    match QueryParameter.decode raw with
    | .ok value => .ok value
    | .error (.tooDeep _, _) => .error .tooDeep
    | .error (fault, source) => .error (.notJson fault source)
  | value => .ok value

/-- The violation that is reported of several, or none if there are none. Paths that cannot be
compared cannot be sorted. -/
def firstViolation (violations : List Violation) : Except Rejection (Option Violation) :=
  if Violation.comparable violations then .ok (Violation.least? violations)
  else .error (.unreadable .wrongKind)

/-- The violation that is reported of a value that should be a filter. -/
def checkFilter (value : Value) : Except Rejection (Option Violation) :=
  if levelLimit < levels value ∨ overlong value then .error .tooDeep
  else firstViolation (violations value)

/-- Whether the report of a violation shows a value that is nested too deeply to be written. -/
def Violation.isTooDeep (violation : Violation) : Bool :=
  match violation.requirement with
  | .kind _ | .someForm => Json.nestingLimit < Json.nesting violation.value
  | .required _ => false

/-- The violation that is reported of a value that should be a sort list. The reports of all
violations are written before they are sorted. -/
def checkSort (value : Value) : Except Rejection (Option Violation) :=
  if (sortViolations value).any Violation.isTooDeep then .error .tooDeep
  else firstViolation (sortViolations value)

/-- Refuses a value for a violation. -/
def refuse : Option Violation → Except Rejection Unit
  | some violation => .error (.misshapen violation)
  | none => .ok ()

/-- What was read, or the rejection of what cannot be read. -/
def orUnreadable {α : Type} : Except Fault α → Except Rejection α
  | .ok read => .ok read
  | .error fault => .error (.unreadable fault)

/-- The filter in a payload. -/
def readFilter (payload : Value) : Except Rejection (List Item) := do
  let value ← payloadValue payload
  refuse (← checkFilter value)
  orUnreadable (itemsOf value)

/-- The sort requests that values stand for. -/
def requestsOf : Value → Except Fault (List SortRequest)
  | .list values => values.mapM SortRequest.ofValue
  | _ => .error .wrongKind

/-- The sort list in a payload. -/
def readSort (payload : Value) : Except Rejection (List SortRequest) := do
  let value ← payloadValue payload
  refuse (← checkSort value)
  orUnreadable (requestsOf value)

end SurveyDesk.Filter
