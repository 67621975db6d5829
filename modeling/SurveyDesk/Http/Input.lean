/-!
What can be wrong with the parts of a request, and how it is reported.
-/
namespace SurveyDesk.Http

/-- What is wrong with a part of a request. -/
inductive InputCause where
  | missing
  | notText
  | tornText
  | emptyText
  | notObject
  | notEntries
  | notWhole
  | wholeTooLong
  | notFlag
  | notJson
  | sourceMissing
  | typeMissing
  deriving DecidableEq, Repr

/-- The wording of a cause. -/
def InputCause.message : InputCause → String
  | .missing => "Field required"
  | .notText => "Input should be a valid string"
  | .tornText => "Input should be a valid string, unable to parse raw data as a unicode string"
  | .emptyText => "String should have at least 1 character"
  | .notObject => "Input should be a valid dictionary or object to extract fields from"
  | .notEntries => "Input should be a valid dictionary"
  | .notWhole => "Input should be a valid integer, unable to parse string as an integer"
  | .wholeTooLong => "Unable to parse input string as an integer, exceeded maximum size"
  | .notFlag => "Input should be a valid boolean, unable to interpret input"
  | .notJson => "JSON decode error"
  | .sourceMissing => "Value error, createFrom is required when createMethod is copy"
  | .typeMissing => "Value error, questionType is required"

/-- A fault in a request: a cause, and the field or the position at which it lies, unless it is
that of the body as a whole. -/
structure InputFault where
  place : Option String
  cause : InputCause
  deriving DecidableEq, Repr

/-- The report of a fault. -/
def InputFault.message (fault : InputFault) : String :=
  match fault.place with
  | some place => place ++ ": " ++ fault.cause.message
  | none => fault.cause.message

/-- Reports the fault of a field. -/
def fieldFault {α : Type} (name : String) (cause : InputCause) : Except InputFault α :=
  .error ⟨some name, cause⟩

/-- Reports the fault of a body as a whole. -/
def bodyFault {α : Type} (cause : InputCause) : Except InputFault α := .error ⟨none, cause⟩

end SurveyDesk.Http
