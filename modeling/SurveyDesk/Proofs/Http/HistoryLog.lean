import SurveyDesk.Proofs.Http.FailedRequests
import SurveyDesk.Proofs.Survey.Lifecycle

/-! The history of a survey and the survey itself tell the same. Saving or publishing moves the
survey into a state and is then recorded in another collection; as requests lead from desk to desk,
there is one record for each of these states, and the last record of a type holds the content that
the survey or its publication holds. A survey whose content was lost when it was made as a copy is
the exception: what is saved for it is recorded, or not even that, and is not stored. -/
namespace SurveyDesk.Survey

/-- The state that a record of a type tells of. -/
def HistoryType.status : HistoryType → Status
  | .daily => .editing
  | .publish => .published

/-- The collection of the documents whose content a record of a type holds. -/
def HistoryType.source : HistoryType → Text
  | .daily => configCollection
  | .publish => publicationCollection

/-- Whether a record is of a type and of the survey with an id. -/
def isRecordOf (id : Text) (type : HistoryType) (record : Value) : Bool :=
  textAt? "pageId" record = some id && textAt? "type" record = some type.name

/-- The records of a type of the survey with an id, in the order in which they were made. -/
def recordsOf (desk : Desk) (id : Text) (type : HistoryType) : List Value :=
  (documentsIn desk historyCollection).filter (isRecordOf id type)

/-- The id of the user who made what a record tells of. -/
def operatorOf? (record : Value) : Option Text := (record.get? "operator").bind (textAt? "_id")

theorem HistoryType.name_injective : Function.Injective HistoryType.name := by
  intro first second same
  cases first <;> cases second <;> first | rfl | exact absurd same (by decide)

theorem HistoryType.status_injective : Function.Injective HistoryType.status := by
  intro first second same
  cases first <;> cases second <;> first | rfl | cases same

/-- Whether a record is of a type and of the survey with an id. -/
def Snapshot.isOf (id : Text) (type : HistoryType) (snapshot : Snapshot) : Bool :=
  snapshot.subject? = some id && snapshot.type = type

namespace Ledger

variable {ledger after : Ledger} {form edited : Form} {id : Text} {type : HistoryType}
  {code : Value} {caller : Caller}

/-- The records of a type of the survey with an id. -/
def recordsOf (ledger : Ledger) (id : Text) (type : HistoryType) : List Snapshot :=
  ledger.snapshots.filter (·.isOf id type)

/-- The content of which records of a type are made, as it is now. -/
def contentOf (ledger : Ledger) (form : Form) : HistoryType → Option Value
  | .daily => form.code
  | .publish => (ledger.publication? form.id).map Publication.code

/-- A ledger whose history tells what a survey tells: all that is saved of a survey with content,
and all that is published. -/
structure Tells (ledger : Ledger) (form : Form) : Prop where
  counted : ∀ type : HistoryType, (type = .daily → form.code.isSome) →
    (ledger.recordsOf form.id type).length = (form.statesIn type.status).length
  bounded : ∀ type : HistoryType,
    (ledger.recordsOf form.id type).length ≤ (form.statesIn type.status).length
  latest : ∀ type record, (type = .daily → form.code.isSome) →
    (ledger.recordsOf form.id type).getLast? = some record →
    ledger.contentOf form type = some record.code
  operated : ∀ record ∈ ledger.snapshots, record.subject? = some form.id →
    record.operator.id = form.owner.id

/-- A ledger whose history is of its surveys and tells what they tell. -/
structure Logged (ledger : Ledger) : Prop where
  named : ∀ record ∈ ledger.snapshots, ∃ form ∈ ledger.forms, record.subject? = some form.id
  tells : ∀ form ∈ ledger.forms, ledger.Tells form

/-! ## What is not recorded -/

/-- Nothing is to be recorded as long as a survey is saved and published as often as before. -/
theorem Tells.kept (tells : ledger.Tells form) (snapshots : after.snapshots = ledger.snapshots)
    (named : edited.id = form.id) (owner : edited.owner = form.owner)
    (content : ∀ type, after.contentOf edited type = ledger.contentOf form type)
    (states : ∀ type : HistoryType, edited.statesIn type.status = form.statesIn type.status) :
    after.Tells edited := by
  have records (type : HistoryType) :
      after.recordsOf edited.id type = ledger.recordsOf form.id type := by
    rw [recordsOf, recordsOf, snapshots, named]
  have code : edited.code = form.code := content .daily
  constructor
  · intro type told
    rw [records, states]
    exact tells.counted type (code ▸ told)
  · intro type
    rw [records, states]
    exact tells.bounded type
  · intro type record told last
    rw [records] at last
    rw [content]
    exact tells.latest type record (code ▸ told) last
  · intro record member subject
    rw [snapshots] at member
    rw [named] at subject
    rw [owner]
    exact tells.operated record member subject

/-- The time and the ids that were given out are not recorded. -/
theorem Logged.later (logged : ledger.Logged) (time : Time) (idsGiven : Nat) :
    Logged { ledger with time, idsGiven } where
  named := logged.named
  tells form member := (logged.tells form member).kept rfl rfl rfl
    (fun type => by cases type <;> rfl) fun _ => rfl

theorem recordsOf_recorded (ledger : Ledger) (id other : Text) (type kind : HistoryType)
    (code : Value) (caller : Caller) :
    (ledger.recorded id type code caller).recordsOf other kind =
      ledger.recordsOf other kind ++
        if id = other ∧ type = kind then [ledger.snapshot (.str id) type code caller] else [] := by
  have subject : (ledger.snapshot (.str id) type code caller).subject? = some id := rfl
  rw [recordsOf, recorded, List.filter_append, List.filter_singleton, cond_eq_ite, Snapshot.isOf,
    subject]
  simp only [Option.some.injEq, Bool.and_eq_true, decide_eq_true_eq]
  rfl

/-- What is done to a survey before it is recorded with a type and a content: it moves into the
state that the record tells of, and the content is the one that counts from then on, unless it was
saved for a survey without any. -/
structure Moves (ledger after : Ledger) (form edited : Form) (type : HistoryType) (code : Value) :
    Prop where
  forms : after.forms = (ledger.put edited).forms
  snapshots : after.snapshots = ledger.snapshots
  named : edited.id = form.id
  owner : edited.owner = form.owner
  filled : edited.code.isSome = form.code.isSome
  states : ∃ date, edited.states = form.states ++ [⟨type.status, date⟩]
  current : (type = .daily → form.code.isSome) → after.contentOf edited type = some code
  others : ∀ kind, kind ≠ type → after.contentOf edited kind = ledger.contentOf form kind
  apart : ∀ id, id ≠ form.id → after.publication? id = ledger.publication? id

theorem Moves.statesIn (moves : Moves ledger after form edited type code) (kind : HistoryType) :
    (edited.statesIn kind.status).length =
      (form.statesIn kind.status).length + if type = kind then 1 else 0 := by
  obtain ⟨date, states⟩ := moves.states
  rw [Form.statesIn, states, List.filter_append, List.filter_singleton, cond_eq_ite,
    List.length_append]
  simp only [decide_eq_true_eq, HistoryType.status_injective.eq_iff]
  split <;> rfl

/-- What is recorded of a survey as it moves is what the survey tells from then on. -/
theorem Tells.recorded (tells : ledger.Tells form) (mine : form.owner.id = caller.id)
    (moves : Moves ledger after form edited type code) :
    (after.recorded form.id type code caller).Tells edited := by
  have records (kind : HistoryType) :
      (after.recorded form.id type code caller).recordsOf edited.id kind =
        ledger.recordsOf form.id kind ++
          if type = kind then [after.snapshot (.str form.id) type code caller] else [] := by
    rw [recordsOf_recorded, recordsOf, recordsOf, moves.snapshots, moves.named]
    simp only [true_and]
  have more (kind : HistoryType) :
      ((after.recorded form.id type code caller).recordsOf edited.id kind).length =
        (ledger.recordsOf form.id kind).length + if type = kind then 1 else 0 := by
    rw [records, List.length_append]
    split <;> rfl
  have content (kind : HistoryType) :
      (after.recorded form.id type code caller).contentOf edited kind =
        after.contentOf edited kind := by
    cases kind <;> rfl
  constructor
  · intro kind told
    rw [more, moves.statesIn, tells.counted kind (moves.filled ▸ told)]
  · intro kind
    rw [more, moves.statesIn]
    exact Nat.add_le_add_right (tells.bounded kind) _
  · intro kind record told last
    rw [moves.filled] at told
    rw [records] at last
    rw [content]
    by_cases same : type = kind
    · subst same
      rw [if_pos rfl, List.getLast?_concat] at last
      cases last
      exact moves.current told
    · rw [if_neg same, List.append_nil] at last
      rw [moves.others kind (Ne.symm same)]
      exact tells.latest kind record told last
  · intro record member subject
    rw [moves.owner]
    rcases List.mem_append.mp member with earlier | here
    · rw [moves.snapshots] at earlier
      exact tells.operated record earlier (moves.named ▸ subject)
    · rw [List.mem_singleton.mp here]
      exact mine.symm

end Ledger
end SurveyDesk.Survey

namespace SurveyDesk.Http

open Survey (Form Ledger Publication Shows Snapshot HistoryType contentSaved? documentsIn
  documentUnder? textAt? isOwnedBy isRecordOf operatorOf? recordsOf statesIn metaCollection
  historyCollection)

variable {setup : Setup} {desk : Desk} {ledger left : Ledger} {form : Form} {id : Text}
  {code : Value}

end SurveyDesk.Http
