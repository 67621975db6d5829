import SurveyDesk.Http.Input
import SurveyDesk.Value.Basic

/-!
What the bodies of requests must hold. The fields are looked at in the order in which they are
declared, and the first fault is the one that is reported.
-/
namespace SurveyDesk.Http

/-- What a request has for a body. Only a body that is declared to be JSON is read. -/
inductive RequestBody where
  | absent
  | unread
  | value (value : Value)
  deriving Repr

/-- The entries of a body. Keys that no field has are left alone. -/
def bodyEntries : RequestBody → Except InputFault Entries
  | .absent => bodyFault .missing
  | .value (.object entries) => .ok entries
  | _ => bodyFault .notObject

/-- A text that must be there, must be whole and must not be empty. -/
def requiredText (entries : Entries) (name : String) : Except InputFault Text :=
  match entries.get? name with
  | none => fieldFault name .missing
  | some (.str text) =>
    if !text.isWhole then fieldFault name .tornText
    else if text = "" then fieldFault name .emptyText
    else .ok text
  | some _ => fieldFault name .notText

/-- A text that need not be there, of any kind; null stands for none. -/
def optionalText (entries : Entries) (name : String) : Except InputFault (Option Text) :=
  match entries.get? name with
  | none | some .null => .ok none
  | some (.str text) => .ok (some text)
  | some _ => fieldFault name .notText

/-- An object that must be there. -/
def requiredObject (entries : Entries) (name : String) : Except InputFault Value :=
  match entries.get? name with
  | none => fieldFault name .missing
  | some (.object object) => .ok (.object object)
  | some _ => fieldFault name .notEntries

/-- A request to add a survey. -/
structure AddRequest where
  remark : Text
  questionType : Text
  title : Text
  deriving Repr

/-- The request to add a survey that a body holds. -/
def AddRequest.ofBody (body : RequestBody) : Except InputFault AddRequest := do
  let entries ← bodyEntries body
  let remark ← requiredText entries "remark"
  let questionType ← requiredText entries "questionType"
  let title ← requiredText entries "title"
  return ⟨remark, questionType, title⟩

/-- What a created survey starts from. -/
inductive Start where
  | anew (questionType : Text)
  | copyOf (source : Text)
  deriving DecidableEq, Repr

/-- A request to create a survey. -/
structure CreateRequest where
  remark : Text
  title : Text
  start : Start
  deriving Repr

/-- What a survey starts from by the texts that say so. -/
def Start.ofTexts (questionType method source : Option Text) : Except InputFault Start :=
  if method = some (.whole "copy") then
    match source with
    | none | some (.whole "") => bodyFault .sourceMissing
    | some source => .ok (.copyOf source)
  else
    match questionType with
    | none | some (.whole "") => bodyFault .typeMissing
    | some questionType => .ok (.anew questionType)

/-- The request to create a survey that a body holds. -/
def CreateRequest.ofBody (body : RequestBody) : Except InputFault CreateRequest := do
  let entries ← bodyEntries body
  let remark ← requiredText entries "remark"
  let title ← requiredText entries "title"
  let questionType ← optionalText entries "questionType"
  let method ← optionalText entries "createMethod"
  let source ← optionalText entries "createFrom"
  return ⟨remark, title, ← Start.ofTexts questionType method source⟩

/-- A request to give a survey another title and remark. -/
structure UpdateRequest where
  survey : Text
  remark : Text
  title : Text
  deriving Repr

/-- The request to update a survey that a body holds. -/
def UpdateRequest.ofBody (body : RequestBody) : Except InputFault UpdateRequest := do
  let entries ← bodyEntries body
  let survey ← requiredText entries "surveyId"
  let remark ← requiredText entries "remark"
  let title ← requiredText entries "title"
  return ⟨survey, remark, title⟩

/-- The id of the survey that a body names. -/
def surveyOfBody (body : RequestBody) : Except InputFault Text := do
  requiredText (← bodyEntries body) "surveyId"

/-- A request to save the content of a survey. -/
structure SaveRequest where
  survey : Text
  config : Value
  deriving Repr

/-- The request to save content that a body holds. -/
def SaveRequest.ofBody (body : RequestBody) : Except InputFault SaveRequest := do
  let entries ← bodyEntries body
  let survey ← requiredText entries "surveyId"
  let config ← requiredObject entries "configData"
  return ⟨survey, config⟩

end SurveyDesk.Http
