import SurveyDesk.Proofs.Store.Find
import SurveyDesk.Proofs.Survey.Ledger
import SurveyDesk.Proofs.Text.Basic

/-! The operations of the desk as they read and change a ledger. An operation on a survey first
finds it and its owner; what it then writes is one entry, and where it fails it writes none. -/
namespace SurveyDesk.Survey

/-- The fault of naming a survey that does not exist or was removed. -/
def missing (id : Value) : Fault :=
  .refused .notFound ("survey " ++ id.asText ++ " does not exist")

/-- The fault of touching somebody else's survey. -/
def notAllowed : Fault :=
  .refused .noPermission "no permission for this survey"

/-- The fault of publishing a survey that has no content. -/
def withoutContent (id : Value) : Fault :=
  .refused .notFound ("survey " ++ id.asText ++ " has no config")

theorem missing_ne_withoutContent (id : Value) : missing id ≠ withoutContent id := by
  intro same
  have texts := congrArg Text.points (Fault.refused.inj same).2
  simp only [Text.points_append] at texts
  exact absurd (List.append_cancel_left texts) (by decide)

theorem notAllowed_ne_withoutContent (id : Value) : notAllowed ≠ withoutContent id := by
  intro same
  exact absurd (Fault.refused.inj same).1 (by decide)

/-- The text of the id that is given out as the `n`th. -/
def idText (n : Nat) : String := "id" ++ toString n

/-- The content of a new survey: what is given for it, or the default. -/
def codeFor (title questionType code : Value) : Value :=
  match code with
  | .null => defaultCode title questionType
  | code => code

/-- The answer that names a survey. -/
def surveyAnswer (id : Value) : Reply := .value (.object [("surveyId", id)])

/-- Whether a survey may be listed for a caller. -/
def Form.isListedFor (caller : Caller) (form : Form) : Bool :=
  form.owner.id = caller.id && !form.isRemoved

namespace Ledger

/-- The current second. -/
def clock (ledger : Ledger) : Int := ledger.time.seconds

/-- The current time in milliseconds. -/
def now (ledger : Ledger) : Int := ledger.time.inMillis

/-- The ledger after a reading of the clock. -/
def read (ledger : Ledger) : Ledger := { ledger with time := ledger.time.read }

/-- The ledger after some seconds. -/
def later (ledger : Ledger) (seconds : Int) : Ledger :=
  { ledger with time := { ledger.time with seconds := ledger.time.seconds + seconds } }

/-- The ledger at which so many milliseconds pass after each of the next readings of the clock. -/
def paced (ledger : Ledger) (passing : List Int) : Ledger :=
  { ledger with time := { ledger.time with passing } }

/-- The id that is given out next. -/
def nextId (ledger : Ledger) : Text := idText (ledger.idsGiven + 1)

/-- The survey that an id names, if it is there and not removed. -/
def seek (ledger : Ledger) (id : Value) : Except Fault Form :=
  match Store.firstNamed Form.id id ledger.forms with
  | .error fault => .error fault
  | .ok none => .error (missing id)
  | .ok (some form) => if form.isRemoved then .error (missing id) else .ok form

/-- The survey that an id names, if it is the caller's. -/
def own (ledger : Ledger) (id : Value) (caller : Caller) : Except Fault Form :=
  match ledger.seek id with
  | .error fault => .error fault
  | .ok form => if form.owner.id = caller.id then .ok form else .error notAllowed

/-- The content of the survey that an id names, if there is any. -/
def contentNamed (ledger : Ledger) (id : Value) : Except Fault (Option Content) :=
  Store.firstNamed Content.id id ledger.contents

/-- What is done with the survey that an id names; where there is none the ledger stays as it is. -/
def withOwn (ledger : Ledger) (id : Value) (caller : Caller)
    (work : Form → Except Fault Reply × Ledger) : Except Fault Reply × Ledger :=
  match ledger.own id caller with
  | .ok form => work form
  | .error fault => (.error fault, ledger)

/-- The ledger with a survey in place of the one with its id. -/
def put (ledger : Ledger) (form : Form) : Ledger :=
  { ledger with forms := ledger.forms.map fun other => if other.id = form.id then form else other }

/-- Giving a survey that was named by a value another title and remark; only what can be a key names
a document that is to be changed. -/
def retitle (ledger : Ledger) (id title remark : Value) (form : Form) :
    Except Fault Reply × Ledger :=
  if id.isKey then
    (.ok (surveyAnswer id), ledger.read.put (form.retitled title remark ledger.now))
  else (.error .wrongKind, ledger.read)

/-- Saving the content of a survey that was named by a value. Where there is no content to be
replaced only the survey is moved. -/
def save (ledger : Ledger) (id code : Value) (form : Form) : Except Fault Reply × Ledger :=
  if id.isKey then
    if form.code.isSome ∧ ¬ Copyable 4 code then (.error .tooDeep, ledger)
    else (.ok (surveyAnswer id),
      ledger.read.put ((form.rewritten code).moved .editing ledger.now))
  else (.error .wrongKind, ledger)

/-- The ledger with one more survey, which comes last. -/
def added (ledger : Ledger) (title remark questionType : Value) (caller : Caller)
    (code : Option Value) : Ledger :=
  { ledger.read with
    forms := ledger.forms ++
      [.fresh ledger.nextId title remark questionType caller code ledger.now]
    idsGiven := ledger.idsGiven + 1 }

/-- Adding a survey from within so many calls; it has no content if what is meant for it is nested
too deeply. -/
def add (ledger : Ledger) (calls : Nat) (title remark questionType : Value) (caller : Caller)
    (code : Value) : Except Fault Reply × Ledger :=
  let code := codeFor title questionType code
  if Copyable (calls + 2) code then
    (.ok (.value (.object [("pageId", .str ledger.nextId)])),
      ledger.added title remark questionType caller code)
  else (.error .tooDeep, ledger.added title remark questionType caller none)

/-- Adding a survey with the content of the one that an id names. -/
def copy (ledger : Ledger) (title remark source : Value) (caller : Caller) (form : Form) :
    Except Fault Reply × Ledger :=
  match ledger.contentNamed source with
  | .error fault => (.error fault, ledger)
  | .ok content =>
    ledger.add 3 title remark form.questionType caller ((content.map Content.code).getD .null)

/-- The ledger with a publication in place of an older one of the same survey, or at the end. -/
def published (ledger : Ledger) (publication : Publication) : Ledger :=
  { ledger with
    publications :=
      if ledger.publications.any (·.id = publication.id) then
        ledger.publications.map fun other =>
          if other.id = publication.id then publication else other
      else ledger.publications ++ [publication] }

/-- The documents of a survey, as its owner is shown them. -/
def documents (ledger : Ledger) (id : Value) (form : Form) : Except Fault Reply := do
  let content ← ledger.contentNamed id
  return .value (.object [("surveyMetaRes", .object form.metaEntries),
    ("surveyConfRes", (content.map fun content => .object content.entries).getD .null)])

/-- Publishing a survey: the publication is written and the survey moved. The clock is read for
either. -/
def publish (ledger : Ledger) (id : Value) (form : Form) : Except Fault Reply × Ledger :=
  match ledger.contentNamed id with
  | .error fault => (.error fault, ledger)
  | .ok none => (.error (withoutContent id), ledger)
  | .ok (some content) =>
    if id.isKey then
      (.ok (.value (.object [
          ("surveyMetaRes", .object (form.moved .published ledger.read.now).metaEntries),
          ("surveyConfRes", .object [("pageId", id), ("code", content.code)])])),
        (ledger.read.read.published ⟨form.id, content.code, ledger.now⟩).put
          (form.moved .published ledger.read.now))
    else (.error .wrongKind, ledger.read)

/-- The surveys that are listed for a caller, as documents. -/
def listedFor (ledger : Ledger) (caller : Caller) : List Document :=
  (ledger.forms.filter (·.isListedFor caller)).map Form.metaDocument

/-- A page of the caller's surveys. -/
def list (ledger : Ledger) (number size : Int) (predicate : Value) (order : SortSpec)
    (caller : Caller) : Except Fault Reply := do
  let sort := if order.isEmpty then newestFirst else order
  let page ← (Store.pageOf predicate sort number size none (ledger.listedFor caller)).mapError
    listFault
  return .value (.object [("count", .int page.total), ("data", .list page.documents)])

/-- A page of the responses to a survey. -/
def sheet (ledger : Ledger) (id : Value) (caller : Caller) (hide : Bool) (number size : Int) :
    Except Fault Reply := do
  let _ ← ledger.own id caller
  let publication ← Store.firstNamed Publication.id id ledger.publications
  let config ← match publication with
    | some publication => pure (some publication.entries)
    | none => (ledger.contentNamed id).map (Option.map Content.entries)
  let columns ← columnsOfConfig (config.map .object)
  let secret ← secretFields columns
  let page ← Store.pageOf (having "pageId" id) newestFirst number size none
    (ledger.responses.map Response.document)
  let rows ← page.documents.mapM (rowOf hide secret columns)
  return .sheet ⟨page.total, columns, rows⟩

/-- The response that is recorded next. -/
def response (ledger : Ledger) (id answers : Value) : Response :=
  ⟨ledger.nextId, id, answers, ledger.now⟩

/-- Recording a response; the id is used up even if the answers are nested too deeply. -/
def addResponse (ledger : Ledger) (id answers : Value) : Except Fault Reply × Ledger :=
  match ledger.seek id with
  | .ok _ =>
    let response := ledger.response id answers
    if Copyable 2 (.object response.entries) then
      (.ok (.value (.object [("_id", .str ledger.nextId)])),
        { ledger.read with
          responses := ledger.responses ++ [response], idsGiven := ledger.idsGiven + 1 })
    else (.error .tooDeep, { ledger.read with idsGiven := ledger.idsGiven + 1 })
  | .error fault => (.error fault, ledger)

/-- The snapshot that is recorded next. -/
def snapshot (ledger : Ledger) (survey : Value) (type : HistoryType) (code : Value)
    (caller : Caller) : Snapshot :=
  ⟨ledger.nextId, survey, type, code, caller, ledger.now⟩

/-- Recording a snapshot; the id is used up even if the type is none or the content is nested too
deeply. -/
def addHistory (ledger : Ledger) (survey code type : Value) (caller : Caller) :
    Except Fault Reply × Ledger :=
  match HistoryType.ofValue type with
  | .ok type =>
    let snapshot := ledger.snapshot survey type code caller
    if Copyable 2 (.object snapshot.entries) then
      (.ok (.value (.object [("_id", .str ledger.nextId)])),
        { ledger.read with
          snapshots := ledger.snapshots ++ [snapshot], idsGiven := ledger.idsGiven + 1 })
    else (.error .tooDeep, { ledger.read with idsGiven := ledger.idsGiven + 1 })
  | .error fault => (.error fault, { ledger with idsGiven := ledger.idsGiven + 1 })

/-- The newest records of a survey and a type. -/
def historyList (ledger : Ledger) (survey type : Value) : Except Fault Reply := do
  let page ← Store.pageOf (.object [("pageId", survey), ("type", type)]) newestFirst 1 historyLimit
    none (ledger.snapshots.map Snapshot.document)
  if Copyable 2 (.list page.documents) then
    return .value (.list (← page.documents.mapM historyEntry))
  else throw .tooDeep

/-- An operation on a ledger: what it answers, and the ledger that it leaves. -/
def perform (ledger : Ledger) : Op → Except Fault Reply × Ledger
  | .add title remark questionType caller code => ledger.add 2 title remark questionType caller code
  | .create title remark questionType method source caller =>
    if method.equals (.str copyMethod) then
      ledger.withOwn source caller (ledger.copy title remark source caller)
    else ledger.add 3 title remark questionType caller .null
  | .update id title remark caller => ledger.withOwn id caller (ledger.retitle id title remark)
  | .delete id caller => ledger.withOwn id caller fun form =>
    (.ok (surveyAnswer id), ledger.read.put (form.moved .removed ledger.now))
  | .list number size predicate order caller =>
    (ledger.list number size predicate order caller, ledger)
  | .saveConfig id code caller => ledger.withOwn id caller (ledger.save id code)
  | .get id caller => ledger.withOwn id caller fun form => (ledger.documents id form, ledger)
  | .publish id caller => ledger.withOwn id caller (ledger.publish id)
  | .addResponse id answers => ledger.addResponse id answers
  | .data id caller hide number size => (ledger.sheet id caller hide number size, ledger)
  | .bannerData file => ((Op.bannerData file).answer (Desk.opened ledger.clock), ledger)
  | .addHistory survey code type caller => ledger.addHistory survey code type caller
  | .historyList survey type => (ledger.historyList survey type, ledger)
  | .wait seconds => (.ok .done, ledger.later seconds)
  | .pace passing => (.ok .done, ledger.paced passing)

/-- What several operations on a ledger answer, one after another. -/
def answers (ledger : Ledger) : List Op → List (Except Fault Reply)
  | [] => []
  | op :: rest => (ledger.perform op).1 :: (ledger.perform op).2.answers rest

/-- The ledger after several operations, one after another. -/
def run (ledger : Ledger) : List Op → Ledger
  | [] => ledger
  | op :: rest => (ledger.perform op).2.run rest

end Ledger
end SurveyDesk.Survey
