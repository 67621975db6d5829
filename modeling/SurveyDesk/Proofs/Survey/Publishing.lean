import SurveyDesk.Proofs.Survey.Chronicle
import SurveyDesk.Proofs.Survey.Lifecycle
import SurveyDesk.Proofs.Survey.OwnView

/-! What a publication holds. It is the content that was in force when its survey was last published
successfully, with the date of the survey's last state of being published; nothing but publishing
the survey again touches it. So a published survey is shown with the same columns, and with the same
answers masked, whatever is done to its content in the meantime. -/
namespace SurveyDesk.Survey

namespace Ledger

variable {ledger left right : Ledger} {form edited : Form} {op : Op} {id : Text}

/-- Only what was added can be published. -/
theorem form?_of_publication? (sound : ledger.Sound)
    (held : ledger.publication? id = some publication) : ∃ form, ledger.form? id = some form := by
  have named : publication.id = id := by simpa using List.find?_some held
  have added := sound.published publication (List.mem_of_find?_eq_some held)
  obtain ⟨form, member, same⟩ := List.mem_map.mp added
  rw [← named, ← same]
  exact ⟨form, Keyed.find?_of_mem sound.distinct member⟩

/-! ## What leaves a publication as it is -/

/-- Two ledgers in which the survey with an id has the same owner, is removed or not, and has the
same publication and the same responses. -/
structure ShownAlike (id : Text) (left right : Ledger) : Prop where
  publication : left.publication? id = right.publication? id
  responses : left.responses = right.responses
  forms : ∀ form, left.form? id = some form → ∃ other, right.form? id = some other ∧
    other.owner = form.owner ∧ other.isRemoved = form.isRemoved

theorem ShownAlike.trans {between : Ledger} (first : ShownAlike id left between)
    (second : ShownAlike id between right) : ShownAlike id left right where
  publication := first.publication.trans second.publication
  responses := first.responses.trans second.responses
  forms := by
    intro form held
    obtain ⟨other, there, owner, removed⟩ := first.forms form held
    obtain ⟨last, here, owner', removed'⟩ := second.forms other there
    exact ⟨last, here, owner'.trans owner, removed'.trans removed⟩

theorem own_of_form? (sound : ledger.Sound) (held : ledger.form? id = some form)
    (caller : Caller) : ledger.own (.str id) caller =
      if form.isRemoved then .error (missing (.str id))
      else if form.owner.id = caller.id then .ok form else .error notAllowed := by
  obtain rfl := id_of_form? held
  exact own_of_mem sound (mem_of_form? held) caller

/-- A published survey is shown alike where it has the same publication and responses. -/
theorem ShownAlike.sheet_eq {publication : Publication} (alike : ShownAlike id left right)
    (leftSound : left.Sound) (rightSound : right.Sound)
    (held : left.publication? id = some publication) (caller : Caller) (hide : Bool)
    (number size : Int) :
    left.sheet (.str id) caller hide number size =
      right.sheet (.str id) caller hide number size := by
  have leftFound : Store.firstNamed Publication.id (.str id) left.publications =
      .ok (some publication) := by rw [Store.firstNamed_text, ← publication?, held]
  have rightFound : Store.firstNamed Publication.id (.str id) right.publications =
      .ok (some publication) := by
    rw [Store.firstNamed_text, ← publication?, ← alike.publication, held]
  obtain ⟨form, added⟩ := form?_of_publication? leftSound held
  obtain ⟨other, there, owner, removed⟩ := alike.forms form added
  simp only [sheet, leftFound, rightFound, own_of_form? leftSound added,
    own_of_form? rightSound there, owner, removed, alike.responses, ok_bind]
  by_cases gone : form.isRemoved
  · simp only [if_pos gone, error_bind]
  · by_cases mine : form.owner.id = caller.id
    · simp only [if_neg gone, if_pos mine, ok_bind]
    · simp only [if_neg gone, if_neg mine, error_bind]

end Ledger

/-! ## What is stored -/

variable {desk : Desk} {ledger : Ledger} {id : Text}

end SurveyDesk.Survey
