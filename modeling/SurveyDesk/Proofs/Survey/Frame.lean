import SurveyDesk.Proofs.Survey.Ownership
import SurveyDesk.Proofs.Survey.Pages

/-! What an operation on one survey leaves alone. A document belongs to the survey that it names: a
meta document by its id, every other document by the id of its page. An operation that names a
survey by its id changes no document of any other survey that is there, whatever it comes to. -/
namespace SurveyDesk.Survey

/-- What an operation names as the survey that it is on, or that it makes a copy of. -/
def Op.subject? : Op → Option Value
  | .create _ _ _ _ id _ | .update id _ _ _ | .delete id _ | .saveConfig id _ _ | .get id _
  | .publish id _ | .addResponse id _ | .data id _ _ _ _ | .addHistory id _ _ _
  | .historyList id _ => some id
  | .add .. | .list .. | .bannerData _ | .wait _ | .pace _ => none

/-- The key under which the documents of a collection name their survey. -/
def surveyKey (name : Text) : Text := if name = metaCollection then "_id" else "pageId"

/-- The documents of a collection that belong to the survey with an id. -/
def documentsOf (desk : Desk) (id name : Text) : List Value :=
  (documentsIn desk name).filter fun document => textAt? (surveyKey name) document = some id

namespace Ledger

variable {desk : Desk} {ledger before after : Ledger} {op : Op} {id other : Text}

/-- Two ledgers hold the same of the survey with an id. -/
structure SameOn (id : Text) (before after : Ledger) : Prop where
  forms : after.forms.filter (·.id = id) = before.forms.filter (·.id = id)
  publications : after.publications.filter (·.id = id) = before.publications.filter (·.id = id)
  responses : after.responses.filter (·.isTo [id]) = before.responses.filter (·.isTo [id])
  snapshots : after.snapshots.filter (·.subject? = some id) =
    before.snapshots.filter (·.subject? = some id)

/-! ## Documents -/

/-- The documents of items that belong to a survey are those of the items that do. -/
private theorem filter_named {α : Type} {key : Text} {entries : α → Entries} {belongs : α → Bool}
    (named : ∀ item, decide (textAt? key (.object (entries item)) = some id) = belongs item)
    (items : List α) :
    (items.map fun item => Value.object (entries item)).filter (fun document =>
        textAt? key document = some id) =
      (items.filter belongs).map fun item => .object (entries item) := by
  rw [List.filter_map]
  exact congrArg (List.map _) (List.filter_congr fun item _ => named item)

theorem documentsOf_metas (shows : Shows desk ledger) (id : Text) :
    documentsOf desk id metaCollection =
      (ledger.forms.filter (·.id = id)).map fun form => .object form.metaEntries := by
  have named (form : Form) :
      textAt? (surveyKey metaCollection) (.object form.metaEntries) = some form.id := rfl
  rw [documentsOf, documentsIn_metas shows]
  exact filter_named (fun form => by simp [named form]) _

theorem documentsOf_configs (shows : Shows desk ledger) (id : Text) :
    documentsOf desk id configCollection =
      ((ledger.forms.filter (·.id = id)).filterMap Form.content?).map
        fun content => .object content.entries := by
  have named (content : Content) :
      textAt? (surveyKey configCollection) (.object content.entries) = some content.id := rfl
  have contents : ledger.contents.filter (·.id = id) =
      (ledger.forms.filter (·.id = id)).filterMap Form.content? := by
    rw [Ledger.contents, List.filter_filterMap, List.filterMap_filter]
    refine List.filterMap_congr fun form _ => ?_
    rw [Form.content?]
    cases form.code <;> simp [Option.filter]
  rw [documentsOf, documentsIn_configs shows, ← contents]
  exact filter_named (fun content => by simp [named content]) _

theorem documentsOf_publications (shows : Shows desk ledger) (id : Text) :
    documentsOf desk id publicationCollection = (ledger.publications.filter (·.id = id)).map
      fun publication => .object publication.entries := by
  have named (publication : Publication) :
      textAt? (surveyKey publicationCollection) (.object publication.entries) =
        some publication.id := rfl
  rw [documentsOf, documentsIn_publications shows]
  exact filter_named (fun publication => by simp [named publication]) _

theorem documentsOf_responses (shows : Shows desk ledger) (id : Text) :
    documentsOf desk id responseCollection = (ledger.responses.filter (·.isTo [id])).map
      fun response => .object response.entries := by
  rw [documentsOf, documentsIn_responses shows]
  exact filter_named (isResponseTo_response id) _

theorem SameOn.trans {middle : Ledger} (first : SameOn id before middle)
    (second : SameOn id middle after) : SameOn id before after where
  forms := second.forms.trans first.forms
  publications := second.publications.trans first.publications
  responses := second.responses.trans first.responses
  snapshots := second.snapshots.trans first.snapshots

end Ledger

end SurveyDesk.Survey
