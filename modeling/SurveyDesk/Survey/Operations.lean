import SurveyDesk.Survey.Desk
import SurveyDesk.Survey.Records

/-!
The operations on surveys. Everyone may respond to a survey that is not removed; everything else
about it is up to its owner, and a removed survey is gone for all.
-/
namespace SurveyDesk.Survey

open Work

/-- The predicate that a key has a value. -/
def having (key : Text) (value : Value) : Value := .object [(key, value)]

/-- Reports that a survey does not exist. -/
def refuseMissing {α : Type} (id : Value) : Work α :=
  refuse .notFound ("survey " ++ id.asText ++ " does not exist")

/-- The meta document of a survey that exists and is not removed. -/
def findMeta (id : Value) : Work Value := do
  match ← findOne metaCollection (having "_id" id) with
  | none => refuseMissing id
  | some found =>
    let status ← ofOutcome do (← found.entry "curStatus").entry "status"
    if status.equals (.str Status.removed.name) then refuseMissing id else return found

/-- The meta document of a survey that the caller owns. -/
def findOwnMeta (id : Value) (caller : Caller) : Work Value := do
  let found ← findMeta id
  if (← ofOutcome (found.entry "ownerId")).equals (.str caller.id) then return found
  else refuse .noPermission "no permission for this survey"

/-- The states that a survey went through, and one more. -/
def statusesWith (status : Value) : Option Value → Except Fault Value
  | none => .ok (.list [status])
  | some (.list statuses) => .ok (.list (statuses ++ [status]))
  | some _ => .error .wrongKind

/-- Moves a survey into a state; gives its meta document as it is then. -/
def setStatus (found : Value) (status : Status) : Work Value := do
  let date ← now
  let record := status.record date
  let id ← ofOutcome (found.entry "_id")
  let statuses ← ofOutcome (statusesWith record (found.get? "statusList"))
  let changed ← Work.update metaCollection id (.object [
    ("curStatus", record), ("statusList", statuses), ("updateDate", .int date)])
  return changed.getD .null

/-- Adds a survey from within so many calls. Without content of its own it gets the default one. A
survey whose content is nested too deeply is left without. -/
def addWithin (calls : Nat) (title remark questionType : Value) (caller : Caller) (code : Value) :
    Work Value := do
  let date ← now
  let id ← freshId
  insert metaCollection (metaRecord id title remark questionType caller date)
  let code := match code with | .null => defaultCode title questionType | code => code
  insertCopy calls configCollection (configRecord id code)
  return .object [("pageId", id)]

/-- Adds a survey. -/
def add (title remark questionType : Value) (caller : Caller) (code : Value) : Work Value :=
  addWithin 2 title remark questionType caller code

/-- The way of creating a survey that takes the content of another. -/
def copyMethod : Text := "copy"

/-- Creates a survey, from nothing or as a copy of another that the caller owns. -/
def create (title remark questionType method source : Value) (caller : Caller) : Work Value := do
  if method.equals (.str copyMethod) then
    let found ← findOwnMeta source caller
    let code ← match ← findOne configCollection (having "pageId" source) with
      | some config => ofOutcome (config.entry "code")
      | none => pure .null
    addWithin 3 title remark (← ofOutcome (found.entry "questionType")) caller code
  else addWithin 3 title remark questionType caller .null

/-- Gives a survey another title and remark. -/
def update (id title remark : Value) (caller : Caller) : Work Value := do
  let _ ← findOwnMeta id caller
  let _ ← Work.update metaCollection id (.object [
    ("title", title), ("remark", remark), ("updateDate", .int (← now))])
  return .object [("surveyId", id)]

/-- Removes a survey. -/
def delete (id : Value) (caller : Caller) : Work Value := do
  let _ ← setStatus (← findOwnMeta id caller) .removed
  return .object [("surveyId", id)]

/-- Saves the content of a survey. -/
def saveConfig (id code : Value) (caller : Caller) : Work Value := do
  let found ← findOwnMeta id caller
  let _ ← updateCopy 2 configCollection id (.object [("code", code)])
  let _ ← setStatus found .editing
  return .object [("surveyId", id)]

/-- The meta document and the config document of a survey. -/
def get (id : Value) (caller : Caller) : Work Value := do
  let found ← findOwnMeta id caller
  let config ← findOne configCollection (having "pageId" id)
  return .object [("surveyMetaRes", found), ("surveyConfRes", config.getD .null)]

/-- Publishes the content of a survey as it is now. -/
def publish (id : Value) (caller : Caller) : Work Value := do
  let found ← findOwnMeta id caller
  match ← findOne configCollection (having "pageId" id) with
  | none => refuse .notFound ("survey " ++ id.asText ++ " has no config")
  | some config =>
    let code ← ofOutcome (config.entry "code")
    let record := publicationRecord id code (← now)
    if (← Work.update publicationCollection id record).isNone then
      insert publicationCollection record
    let found ← setStatus found .published
    return .object [
      ("surveyMetaRes", found), ("surveyConfRes", .object [("pageId", id), ("code", code)])]

/-- The surveys that a caller may list: its own that are not removed. -/
def listScope (caller : Caller) : Value :=
  .object [("ownerId", .str caller.id),
    ("curStatus.status", Predicate.Operator.notEqual.fragment (.str Status.removed.name))]

/-- The order in which surveys and responses are listed where no other is asked for. -/
def newestFirst : SortSpec := [("createDate", .int (-1))]

/-- The fault that a list reports for a bad pattern in its filter. -/
def listFault : Fault → Fault
  | .badPattern _ (.malformed _ _) => .refused .badParameters "filter format is not valid"
  | fault => fault

/-- A page of the caller's surveys that satisfy a predicate. The scope is a predicate apart, so
that no condition of the caller's takes its place. -/
def list (number size : Int) (predicate : Value) (order : SortSpec) (caller : Caller) :
    Work Value := do
  let sort := if order.isEmpty then newestFirst else order
  let page := (← MonadState.get).store.find metaCollection predicate sort number size
    (some (listScope caller))
  let page ← ofOutcome (page.mapError listFault)
  return .object [("count", .int page.total), ("data", .list page.documents)]

/-- Records a response to a survey. -/
def addResponse (id answers : Value) : Work Value := do
  let _ ← findMeta id
  let response ← freshId
  insertCopy 2 responseCollection (responseRecord response id answers (← now))
  return .object [("_id", response)]

end SurveyDesk.Survey
