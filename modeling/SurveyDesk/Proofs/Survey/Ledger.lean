import SurveyDesk.Proofs.Survey.Service
import SurveyDesk.Proofs.Store.Collection

/-! A ledger holds what the documents of a desk say, without saying it twice: one entry for the meta
document and the config document of a survey, whose last state is the current one, and one entry for
each publication, response and history record. A survey that was added with content that is nested
too deeply has no config document. A desk shows a ledger if its collections are exactly
the documents of the ledger's entries, in their order. -/
namespace SurveyDesk.Survey

/-- A state of a survey with the date at which it was reached. -/
@[ext] structure Milestone where
  status : Status
  date : Int
  deriving DecidableEq

/-- A milestone as a document holds it. -/
def Milestone.toValue (milestone : Milestone) : Value := milestone.status.record milestone.date

/-- A survey. Its states are those in the past, the oldest first, and the current one. -/
@[ext] structure Form where
  id : Text
  title : Value
  remark : Value
  questionType : Value
  owner : Caller
  past : List Milestone
  current : Milestone
  created : Int
  updated : Int
  code : Option Value

/-- The content of a survey. -/
@[ext] structure Content where
  id : Text
  code : Value

/-- The entries of a config document. -/
def Content.entries (content : Content) : Entries :=
  [("_id", .str content.id), ("pageId", .str content.id), ("code", content.code)]

/-- A config document as it is stored. -/
def Content.document (content : Content) : Document := .ofEntries content.entries

namespace Form

/-- The entries of a survey's meta document. -/
def metaEntries (form : Form) : Entries := [
  ("_id", .str form.id), ("title", form.title), ("remark", form.remark),
  ("questionType", form.questionType), ("owner", .str form.owner.name),
  ("ownerId", .str form.owner.id), ("curStatus", form.current.toValue),
  ("statusList", .list ((form.past ++ [form.current]).map Milestone.toValue)),
  ("createDate", .int form.created), ("updateDate", .int form.updated)]

/-- The meta document of a survey as it is stored. -/
def metaDocument (form : Form) : Document := .ofEntries form.metaEntries

/-- The content of a survey, if it has any. -/
def content? (form : Form) : Option Content := form.code.map fun code => ⟨form.id, code⟩

/-- Whether a survey has been removed. -/
def isRemoved (form : Form) : Bool := form.current.status = .removed

/-- A survey that has just been added. -/
def fresh (id : Text) (title remark questionType : Value) (owner : Caller)
    (code : Option Value) (date : Int) : Form :=
  { id, title, remark, questionType, owner, past := [], current := ⟨.new, date⟩, created := date,
    updated := date, code }

/-- The survey moved into a state. -/
def moved (status : Status) (date : Int) (form : Form) : Form :=
  { form with past := form.past ++ [form.current], current := ⟨status, date⟩, updated := date }

/-- The survey with another title and remark. -/
def retitled (title remark : Value) (date : Int) (form : Form) : Form :=
  { form with title, remark, updated := date }

/-- The survey with other content, if it has any. -/
def rewritten (code : Value) (form : Form) : Form :=
  { form with code := form.code.map fun _ => code }

end Form

/-- The content of a survey as it was last published. -/
@[ext] structure Publication where
  id : Text
  code : Value
  date : Int

/-- The entries of a publication. -/
def Publication.entries (publication : Publication) : Entries :=
  [("_id", .str publication.id), ("pageId", .str publication.id), ("code", publication.code),
    ("publishDate", .int publication.date)]

/-- A publication as it is stored. -/
def Publication.document (publication : Publication) : Document := .ofEntries publication.entries

/-- A response; the survey is named as the respondent named it. -/
@[ext] structure Response where
  id : Text
  survey : Value
  answers : Value
  date : Int

/-- The entries of a response. -/
def Response.entries (response : Response) : Entries :=
  [("_id", .str response.id), ("pageId", response.survey), ("data", response.answers),
    ("createDate", .int response.date)]

/-- A response as it is stored. -/
def Response.document (response : Response) : Document := .ofEntries response.entries

/-- A history record. -/
structure Snapshot where
  id : Text
  survey : Value
  type : HistoryType
  code : Value
  operator : Caller
  date : Int

/-- The entries of a history record. -/
def Snapshot.entries (snapshot : Snapshot) : Entries :=
  [("_id", .str snapshot.id), ("pageId", snapshot.survey), ("type", .str snapshot.type.name),
    ("schema", snapshot.code), ("operator", snapshot.operator.toValue),
    ("createDate", .int snapshot.date)]

/-- A history record as it is stored. -/
def Snapshot.document (snapshot : Snapshot) : Document := .ofEntries snapshot.entries

/-- What the documents of a desk say. -/
structure Ledger where
  forms : List Form
  publications : List Publication
  responses : List Response
  snapshots : List Snapshot
  time : Time
  idsGiven : Nat

/-- What the config documents of a desk say. -/
def Ledger.contents (ledger : Ledger) : List Content := ledger.forms.filterMap Form.content?

/-- The ledger of a desk without documents. -/
def Ledger.opened (clock : Int) : Ledger := ⟨[], [], [], [], .still clock, 0⟩

/-- A desk shows a ledger: every collection holds the documents of its entries under their ids. -/
structure Shows (desk : Desk) (ledger : Ledger) : Prop where
  metas : desk.store.collection metaCollection =
    Keyed.byName Form.id Form.metaDocument ledger.forms
  configs : desk.store.collection configCollection =
    Keyed.byName Content.id Content.document ledger.contents
  publications : desk.store.collection publicationCollection =
    Keyed.byName Publication.id Publication.document ledger.publications
  responses : desk.store.collection responseCollection =
    Keyed.byName Response.id Response.document ledger.responses
  snapshots : desk.store.collection historyCollection =
    Keyed.byName Snapshot.id Snapshot.document ledger.snapshots
  time : desk.time = ledger.time
  idsGiven : desk.idsGiven = ledger.idsGiven

end SurveyDesk.Survey
