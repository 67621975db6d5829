import SurveyDesk.Proofs.Survey.Documents
import SurveyDesk.Proofs.Survey.Refinement

/-! What operations and their answers tell of the content of surveys, without a look at any
document. A creation that takes an id makes a survey, with content if it is answered. The content in
force is what a survey was added with until other content is saved successfully; to publish it
successfully is to publish what is in force then. -/
namespace SurveyDesk.Survey

/-- A survey as a chronicle tells of it: the content in force, if there is any, and the content that
was in force when it was last published, if it was. -/
structure Edition where
  id : Text
  questionType : Value
  inForce : Option Value
  published : Option Value

/-- The surveys that a chronicle tells of, in the order in which they were added. -/
abbrev Chronicle := List Edition

/-- An operation that has been made: its answer, and the id that it took, if it took any. -/
structure Telling where
  op : Op
  answer : Except Fault Reply
  taken : Option Text

/-- What is told of an operation at a desk. -/
def Op.telling (op : Op) (desk : Desk) : Telling :=
  ⟨op, op.answer desk, if (op.after desk).idsGiven = desk.idsGiven then none
    else some (idText (desk.idsGiven + 1))⟩

/-- What is told of several operations, one after another. -/
def Op.tellings : List Op → Desk → List Telling
  | [], _ => []
  | op :: rest, desk => op.telling desk :: tellings rest (op.after desk)

namespace Chronicle

/-- A chronicle with the survey that a creation makes. -/
def adding (chronicle : Chronicle) (telling : Telling) (title questionType code : Value) :
    Chronicle :=
  match telling.taken, telling.answer with
  | some id, .ok _ =>
    chronicle ++ [⟨id, questionType, some (codeFor title questionType code), none⟩]
  | some id, .error _ => chronicle ++ [⟨id, questionType, none, none⟩]
  | none, _ => chronicle

/-- A chronicle with a change of the survey that a value names. -/
def changing (chronicle : Chronicle) (id : Value) (change : Edition → Edition) : Chronicle :=
  chronicle.map fun edition => if (Value.str edition.id).equals id then change edition else edition

/-- The content in force that a value names, null if there is none. -/
def inForce (chronicle : Chronicle) (id : Value) : Value :=
  match Store.firstNamed Edition.id id (chronicle.filter (·.inForce.isSome)) with
  | .ok (some edition) => edition.inForce.getD .null
  | _ => .null

/-- A chronicle with what is told of one more operation. -/
def told (chronicle : Chronicle) (telling : Telling) : Chronicle :=
  match telling.op, telling.answer with
  | .add title _ questionType _ code, _ => chronicle.adding telling title questionType code
  | .create title _ questionType method source _, _ =>
    if method.equals (.str copyMethod) then
      match Store.firstNamed Edition.id source chronicle with
      | .ok (some copied) =>
        chronicle.adding telling title copied.questionType (chronicle.inForce source)
      | _ => chronicle
    else chronicle.adding telling title questionType .null
  | .saveConfig id code _, .ok _ => chronicle.changing id fun edition =>
    { edition with inForce := edition.inForce.map fun _ => code }
  | .publish id _, .ok _ => chronicle.changing id fun edition =>
    { edition with published := edition.inForce }
  | _, _ => chronicle

end Chronicle

namespace Ledger

/-- A survey and its publication, as a chronicle tells of them. -/
def edition (ledger : Ledger) (form : Form) : Edition :=
  ⟨form.id, form.questionType, form.code, (ledger.publication? form.id).map Publication.code⟩

/-- The surveys of a ledger, as a chronicle tells of them. -/
def chronicle (ledger : Ledger) : Chronicle := ledger.forms.map ledger.edition

variable {ledger after : Ledger} {form : Form}

/-- The id that an operation takes on a ledger, if it takes one. -/
def taken (ledger : Ledger) (op : Op) : Option Text :=
  if (ledger.perform op).2.idsGiven = ledger.idsGiven then none else some ledger.nextId

/-- What is told of an operation at a desk is what it answers on the ledger and the id it takes. -/
theorem telling_eq (shows : Shows desk ledger) (sound : ledger.Sound) (op : Op) :
    op.telling desk = ⟨op, (ledger.perform op).1, ledger.taken op⟩ := by
  rw [Op.telling, answer_eq shows sound, taken, (shows_after shows sound op).idsGiven,
    shows.idsGiven]
  rfl

end Ledger

end SurveyDesk.Survey
