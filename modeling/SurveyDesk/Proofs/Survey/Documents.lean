import SurveyDesk.Proofs.Survey.Effect
import SurveyDesk.Proofs.Survey.Lookup

/-! What can be read off the stored documents themselves: whose survey a document belongs to and
whether it was removed. A desk that shows a ledger stores exactly the documents of its entries, each
under the id of its entry. -/
namespace SurveyDesk.Survey

/-- The documents of a collection, as they are stored. -/
def documentsIn (desk : Desk) (name : Text) : List Value :=
  (Keyed.contents (desk.store.collection name)).map Document.shown

/-- The document under an id in a collection, as it is stored. -/
def documentUnder? (desk : Desk) (name id : Text) : Option Document :=
  Keyed.get? (.str id) (desk.store.collection name)

/-- The collections of the documents that make up a survey. -/
def surveyCollections : List Text := [metaCollection, configCollection, publicationCollection]

/-- The collections that hold what belongs to surveys. -/
def deskCollections : List Text := surveyCollections ++ [responseCollection, historyCollection]

/-- Whether two desks hold the same documents, each under the same key and in the same order. -/
def SameDocuments (before after : Desk) : Prop :=
  ∀ name ∈ deskCollections, after.store.collection name = before.store.collection name

/-- The content of a survey as it was last saved. -/
def contentSaved? (desk : Desk) (id : Text) : Option Value :=
  (documentUnder? desk configCollection id).bind (·.named.get? "code")

/-- The text under a key of a document. -/
def textAt? (key : Text) (document : Value) : Option Text :=
  match document.get? key with
  | some (.str text) => some text
  | _ => none

/-- Whether a meta document says that a user owns the survey. -/
def isOwnedBy (user : Text) (document : Value) : Bool := textAt? "ownerId" document = some user

/-- Whether a meta document says that the survey has been removed. -/
def saysRemoved (document : Value) : Bool :=
  ((document.get? "curStatus").bind (textAt? "status")) = some Status.removed.name

/-- The id of the survey that a history record is of, if a text names it. -/
def Snapshot.subject? (snapshot : Snapshot) : Option Text :=
  match snapshot.survey with
  | .str id => some id
  | _ => none

variable {desk : Desk} {ledger : Ledger}

theorem isOwnedBy_meta (user : Text) (form : Form) :
    isOwnedBy user (.object form.metaEntries) = decide (form.owner.id = user) := by
  have owner : textAt? "ownerId" (.object form.metaEntries) = some form.owner.id := rfl
  rw [isOwnedBy, owner]
  simp

theorem saysRemoved_meta (form : Form) :
    saysRemoved (.object form.metaEntries) = form.isRemoved := by
  have status : ((Value.object form.metaEntries).get? "curStatus").bind (textAt? "status") =
    some form.current.status.name := rfl
  rw [← equals_removed, Value.text_equals_text, saysRemoved, status]
  simp

theorem textAt?_subject (snapshot : Snapshot) :
    textAt? "pageId" (.object snapshot.entries) = snapshot.subject? := by
  obtain ⟨_, survey⟩ := snapshot
  cases survey <;> rfl

theorem documentsIn_metas (shows : Shows desk ledger) :
    documentsIn desk metaCollection = ledger.forms.map fun form => .object form.metaEntries := by
  rw [documentsIn, shows.metas, Keyed.contents_byName, List.map_map]
  exact List.map_congr_left fun form _ => Form.shown_metaDocument form

theorem documentsIn_configs (shows : Shows desk ledger) :
    documentsIn desk configCollection =
      ledger.contents.map fun content => .object content.entries := by
  rw [documentsIn, shows.configs, Keyed.contents_byName, List.map_map]
  exact List.map_congr_left fun content _ => Content.shown_document content

theorem documentsIn_publications (shows : Shows desk ledger) :
    documentsIn desk publicationCollection =
      ledger.publications.map fun publication => .object publication.entries := by
  rw [documentsIn, shows.publications, Keyed.contents_byName, List.map_map]
  exact List.map_congr_left fun publication _ => Publication.shown_document publication

theorem documentsIn_responses (shows : Shows desk ledger) :
    documentsIn desk responseCollection =
      ledger.responses.map fun response => .object response.entries := by
  rw [documentsIn, shows.responses, Keyed.contents_byName, List.map_map]
  exact List.map_congr_left fun response _ => Response.shown_document response

theorem documentsIn_snapshots (shows : Shows desk ledger) :
    documentsIn desk historyCollection =
      ledger.snapshots.map fun snapshot => .object snapshot.entries := by
  rw [documentsIn, shows.snapshots, Keyed.contents_byName, List.map_map]
  exact List.map_congr_left fun snapshot _ => Snapshot.shown_document snapshot

theorem metaUnder?_eq (shows : Shows desk ledger) (id : Text) :
    documentUnder? desk metaCollection id = (ledger.form? id).map Form.metaDocument := by
  rw [documentUnder?, shows.metas, Keyed.get?_byName, Ledger.form?]

theorem configUnder?_eq (shows : Shows desk ledger) (sound : ledger.Sound) (id : Text) :
    documentUnder? desk configCollection id =
      ((ledger.form? id).bind Form.content?).map Content.document := by
  rw [documentUnder?, shows.configs, Keyed.get?_byName, Ledger.find?_contents sound, Ledger.form?]

theorem publicationUnder?_eq (shows : Shows desk ledger) (id : Text) :
    documentUnder? desk publicationCollection id =
      (ledger.publication? id).map Publication.document := by
  rw [documentUnder?, shows.publications, Keyed.get?_byName, Ledger.publication?]

theorem contentSaved?_eq {form : Form} {id : Text} (shows : Shows desk ledger)
    (sound : ledger.Sound) (held : ledger.form? id = some form) :
    contentSaved? desk id = form.code := by
  rw [contentSaved?, configUnder?_eq shows sound, held, Option.bind_some, ← Form.code_content? form]
  cases form.content? with
  | none => rfl
  | some content =>
    show content.document.named.get? "code" = _
    rw [Content.named_document]
    rfl

/-- Desks hold the same documents if the ledgers that they show tell no more apart than the time and
the ids that were given out. -/
theorem sameDocuments_of_shows {after : Desk} {time : Time} {idsGiven : Nat}
    (before : Shows desk ledger) (later : Shows after { ledger with time, idsGiven }) :
    SameDocuments desk after := by
  simp only [SameDocuments, deskCollections, surveyCollections, List.cons_append, List.nil_append,
    List.forall_mem_cons]
  exact ⟨later.metas.trans before.metas.symm, later.configs.trans before.configs.symm,
    later.publications.trans before.publications.symm,
    later.responses.trans before.responses.symm, later.snapshots.trans before.snapshots.symm,
    List.forall_mem_nil _⟩

end SurveyDesk.Survey
