import SurveyDesk.Survey.Operations

/-!
The history of a survey: a snapshot of its content each time it is saved or published.
-/
namespace SurveyDesk.Survey

open Work

/-- The collection of history records. -/
def historyCollection : Text := "survey_history"

/-- The most records that a history list shows. -/
def historyLimit : Int := 100

/-- What a history record was made for. -/
inductive HistoryType where
  | daily
  | publish
  deriving DecidableEq, Repr

/-- The name of a history type. -/
def HistoryType.name : HistoryType → Text
  | .daily => "dailyHis"
  | .publish => "publishHis"

/-- The history type that a value names. -/
def HistoryType.ofValue (value : Value) : Except Fault HistoryType :=
  if value.equals (.str HistoryType.daily.name) then .ok .daily
  else if value.equals (.str HistoryType.publish.name) then .ok .publish
  else .error (.unknownHistoryType value)

/-- A history record. -/
def historyRecord (id survey : Value) (type : HistoryType) (code : Value) (caller : Caller)
    (date : Int) : Value :=
  .object [("_id", id), ("pageId", survey), ("type", .str type.name), ("schema", code),
    ("operator", caller.toValue), ("createDate", .int date)]

/-- Records a snapshot of a survey's content. The id is taken before the type is looked at. -/
def addHistory (survey code type : Value) (caller : Caller) : Work Value := do
  let id ← freshId
  let type ← ofOutcome (HistoryType.ofValue type)
  insertCopy 2 historyCollection (historyRecord id survey type code caller (← now))
  return .object [("_id", id)]

/-- A history record as it is listed. -/
def historyEntry (record : Value) : Except Fault Value := do
  return .object [("_id", ← record.entry "_id"), ("createDate", ← record.entry "createDate"),
    ("operator", ← record.entry "operator")]

/-- The newest records of a survey and a type. -/
def historyList (survey type : Value) : Work Value := do
  let page ← find historyCollection (.object [("pageId", survey), ("type", type)]) newestFirst 1
    historyLimit none
  copy 2 (.list page.documents)
  return .list (← ofOutcome (page.documents.mapM historyEntry))

end SurveyDesk.Survey
