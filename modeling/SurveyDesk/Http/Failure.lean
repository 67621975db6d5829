import SurveyDesk.Fault
import SurveyDesk.Http.Input
import SurveyDesk.Http.Response
import SurveyDesk.Survey.Desk

/-!
Why a request is not served, and the response that says so. Faults of the input and refusals of
the desk are told in an envelope, with a code of its own under a status that reports success.
-/
namespace SurveyDesk.Http

/-- Why nobody is let in. -/
inductive Denial where
  | noBearer
  | badBearer
  | noCookie
  | badCookie
  deriving DecidableEq, Repr

/-- The wording of a denial. -/
def Denial.message : Denial → String
  | .noBearer => "Missing bearer token"
  | .badBearer => "Invalid or expired token"
  | .noCookie => "missing refresh cookie"
  | .badCookie => "Invalid or expired refresh token"

/-- Why a request is not served. -/
inductive Failure where
  | unreadableBody
  | invalid (fault : InputFault)
  | denied (denial : Denial)
  | refused (code : RefusalCode) (message : Text)
  | broken
  deriving Repr

namespace Failure

/-- The failure that a fault at the desk leads to: a refusal is passed on, anything else breaks
the service. -/
def ofFault : Fault → Failure
  | .refused code message => .refused code message
  | _ => .broken

/-- An envelope with a code and a message. A message that is torn cannot be sent. -/
def envelope (code : RefusalCode) : Text → Response
  | .whole message =>
    .ofValue 200 (.object [("code", .int code.number), ("errmsg", .str message)])
  | .torn _ _ _ => .broken

/-- The response that reports a failure. -/
def response : Failure → Response
  | .unreadableBody => .ofDetail 400 "There was an error parsing the body"
  | .invalid fault => envelope .badParameters fault.message
  | .denied denial => .ofDetail 401 denial.message
  | .refused code message => envelope code message
  | .broken => .broken

end Failure

/-- The handling of a request. What it changed before it failed stays. -/
abbrev Handling := ExceptT Failure (StateM Desk)

namespace Handling

/-- The outcome of reading a part of a request. -/
def ofInput {α : Type} (outcome : Except InputFault α) : Handling α :=
  ExceptT.mk (pure (outcome.mapError Failure.invalid))

/-- The outcome of an operation on documents. -/
def ofOutcome {α : Type} (outcome : Except Fault α) : Handling α :=
  ExceptT.mk (pure (outcome.mapError Failure.ofFault))

/-- Work at the desk. -/
def ofWork {α : Type} (work : Work α) : Handling α := ExceptT.adapt Failure.ofFault work

end Handling
end SurveyDesk.Http
