import SurveyDesk.Proofs.Survey.Copying
import SurveyDesk.Proofs.Survey.Legibility
import SurveyDesk.Proofs.Survey.Publishing
import SurveyDesk.Proofs.Survey.Removal

/-! When work on a survey fails. A survey that is gone is not found by anybody, and one that is
somebody else's may not be worked on. Its owner fails at content alone: that there is none, that it
is nested too deeply to be copied, or that no table can be made from it. Whatever fails has changed
nothing, except that a copy may be left without content. -/
namespace SurveyDesk

variable {α β : Type}

/-- Whether a fault comes of a value that is not of the kind that an operation expects. -/
def Fault.IsMisfit : Fault → Prop
  | .missingEntry | .missingFeature | .wrongKind => True
  | _ => False

/-- Whether a computation stops, if it does, at a value that is not of the kind that it expects. -/
def OnlyMisfits (computed : Except Fault α) : Prop :=
  ∀ fault, computed = .error fault → fault.IsMisfit

theorem OnlyMisfits.bind {computed : Except Fault α} {next : α → Except Fault β}
    (first : OnlyMisfits computed)
    (second : ∀ answer, computed = .ok answer → OnlyMisfits (next answer)) :
    OnlyMisfits (computed >>= next) := by
  intro fault stopped
  rcases bind_eq_error.mp stopped with here | ⟨answer, found, there⟩
  · exact first fault here
  · exact second answer found fault there

namespace Survey
open Work

/-- Whether there is no survey with an id, or it has been removed. -/
def IsGone (desk : Desk) (id : Text) : Prop :=
  ∀ document ∈ documentsIn desk metaCollection, textAt? "_id" document = some id →
    saysRemoved document = true

/-- Whether the survey with an id is somebody else's than a user's. -/
def IsOthers (desk : Desk) (id user : Text) : Prop :=
  ∃ document ∈ documentsIn desk metaCollection, textAt? "_id" document = some id ∧
    isOwnedBy user document = false

variable {desk : Desk} {ledger : Ledger} {form : Form} {id : Text} {op : Op} {caller : Caller}

/-! ## What a table may fail at -/

namespace Ledger

/-- Whoever names a survey by a text finds the survey with that id, unless it has been removed. -/
theorem seek_text (ledger : Ledger) (id : Text) : ledger.seek (.str id) =
    match ledger.form? id with
    | none => .error (missing (.str id))
    | some form => if form.isRemoved then .error (missing (.str id)) else .ok form := by
  rw [seek, Store.firstNamed_text, ← form?]
  cases ledger.form? id <;> rfl

end Ledger

theorem isGone_iff (shows : Shows desk ledger) (sound : ledger.Sound) (id : Text) :
    IsGone desk id ↔ ∀ form, ledger.form? id = some form → form.isRemoved = true := by
  rw [IsGone, documentsIn_metas shows]
  constructor
  · intro gone form held
    have named : textAt? "_id" (.object form.metaEntries) = some id :=
      congrArg some (Ledger.id_of_form? held)
    rw [← saysRemoved_meta]
    exact gone _ (List.mem_map_of_mem (Ledger.mem_of_form? held)) named
  · intro removed document stored named
    obtain ⟨form, member, rfl⟩ := List.mem_map.mp stored
    obtain rfl : form.id = id := Option.some.inj named
    rw [saysRemoved_meta]
    exact removed form (Keyed.find?_of_mem sound.distinct member)

theorem isOthers_iff (shows : Shows desk ledger) (sound : ledger.Sound)
    (held : ledger.form? id = some form) (user : Text) :
    IsOthers desk id user ↔ form.owner.id ≠ user := by
  rw [IsOthers, documentsIn_metas shows]
  constructor
  · rintro ⟨document, stored, named, foreign⟩
    obtain ⟨other, member, rfl⟩ := List.mem_map.mp stored
    obtain rfl : other.id = id := Option.some.inj named
    obtain rfl : other = form :=
      Option.some.inj ((Keyed.find?_of_mem sound.distinct member).symm.trans held)
    rw [isOwnedBy_meta] at foreign
    exact of_decide_eq_false foreign
  · intro foreign
    refine ⟨_, List.mem_map_of_mem (Ledger.mem_of_form? held), ?_, ?_⟩
    · exact congrArg some (Ledger.id_of_form? held)
    · rw [isOwnedBy_meta]
      exact decide_eq_false foreign

/-- A survey is gone, or it is found and is somebody's. -/
theorem gone_or_found (shows : Shows desk ledger) (sound : ledger.Sound) (id : Text) :
    (IsGone desk id ∧ ledger.seek (.str id) = .error (missing (.str id))) ∨
    ∃ form, ¬ IsGone desk id ∧ form.id = id ∧ ledger.seek (.str id) = .ok form ∧
      ∀ user, IsOthers desk id user ↔ form.owner.id ≠ user := by
  rw [isGone_iff shows sound, Ledger.seek_text]
  cases held : ledger.form? id with
  | none =>
    left
    refine ⟨?_, rfl⟩
    intro form found
    cases found
  | some form =>
    by_cases removed : form.isRemoved = true
    · left
      refine ⟨?_, if_pos removed⟩
      intro other found
      cases found
      exact removed
    · right
      refine ⟨form, ?_, Ledger.id_of_form? held, if_neg removed, isOthers_iff shows sound held⟩
      intro gone
      exact removed (gone form rfl)

end Survey
end SurveyDesk
