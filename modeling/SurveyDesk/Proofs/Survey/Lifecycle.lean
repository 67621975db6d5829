import SurveyDesk.Proofs.Survey.Documents
import SurveyDesk.Proofs.Survey.Refinement

/-! The life of a survey. It begins as new, goes through states at times that never decrease, and
ends when it is removed. Its meta document tells the last state and three of the dates twice, and
every operation keeps them in step. -/
namespace SurveyDesk.Survey

/-- The states with a status that a meta document lists, the oldest first. -/
def statesIn (status : Status) (document : Value) : List Value :=
  match document.get? "statusList" with
  | some (.list states) => states.filter fun state => textAt? "status" state = some status.name
  | _ => []

namespace Form

/-- The states of a survey, the oldest first. -/
def states (form : Form) : List Milestone := form.past ++ [form.current]

/-- The states with a status that a survey has been in, the oldest first. -/
def statesIn (status : Status) (form : Form) : List Milestone :=
  form.states.filter (·.status = status)

/-- A survey whose states and dates are in order at a time. -/
structure Orderly (now : Int) (form : Form) : Prop where
  begins : form.states.head? = some ⟨.new, form.created⟩
  newOnce : ∀ state ∈ form.states.tail, state.status ≠ .new
  removedLast : ∀ state ∈ form.past, state.status ≠ .removed
  ordered : form.states.Pairwise fun earlier later => earlier.date ≤ later.date
  dated : form.current.date ≤ form.updated
  updated : form.updated ≤ now

variable {form : Form} {now : Int}

theorem Orderly.later (orderly : form.Orderly now) (passed : now ≤ moment) :
    form.Orderly moment :=
  { orderly with updated := Int.le_trans orderly.updated passed }

theorem Orderly.date_le (orderly : form.Orderly now) :
    ∀ state ∈ form.states, state.date ≤ form.current.date := by
  intro state member
  rcases List.mem_append.mp member with earlier | here
  · have ordered := (List.pairwise_append.mp orderly.ordered).2.2
    exact ordered state earlier form.current (List.mem_singleton_self _)
  · obtain rfl := List.mem_singleton.mp here
    exact Int.le_refl _

theorem Orderly.created_le (orderly : form.Orderly now) : form.created ≤ form.current.date :=
  orderly.date_le _ (List.mem_of_head? orderly.begins)

theorem orderly_fresh (id : Text) (title remark questionType : Value) (owner : Caller)
    (code : Option Value) (now : Int) :
    (fresh id title remark questionType owner code now).Orderly now := by
  constructor <;> simp [fresh, states]

theorem states_moved (form : Form) (status : Status) (date : Int) :
    (form.moved status date).states = form.states ++ [⟨status, date⟩] := rfl

theorem statesIn_moved (form : Form) (status into : Status) (date : Int) :
    (form.moved into date).statesIn status =
      form.statesIn status ++ if into = status then [⟨into, date⟩] else [] := by
  rw [statesIn, states_moved, List.filter_append, statesIn, List.filter_singleton, cond_eq_ite]
  simp only [decide_eq_true_eq]

/-- A survey that is not removed can be moved into every state but the first. -/
theorem Orderly.moved (orderly : form.Orderly now) (present : form.isRemoved = false)
    {status : Status} (other : status ≠ .new) : (form.moved status now).Orderly now := by
  have nonempty : form.states ≠ [] := by simp [states]
  have latest : form.current.date ≤ now := Int.le_trans orderly.dated orderly.updated
  constructor
  · rw [states_moved, List.head?_append, orderly.begins]
    rfl
  · intro state member
    rw [states_moved, List.tail_append_of_ne_nil nonempty] at member
    rcases List.mem_append.mp member with earlier | here
    · exact orderly.newOnce state earlier
    · rw [List.mem_singleton.mp here]
      exact other
  · intro state member
    rcases List.mem_append.mp member with earlier | here
    · exact orderly.removedLast state earlier
    · rw [List.mem_singleton.mp here]
      simpa [isRemoved] using present
  · rw [states_moved, List.pairwise_append]
    refine ⟨orderly.ordered, List.pairwise_singleton _ _, ?_⟩
    intro earlier member state here
    rw [List.mem_singleton.mp here]
    exact Int.le_trans (orderly.date_le earlier member) latest
  · exact Int.le_refl now
  · exact Int.le_refl now

theorem Orderly.edited (orderly : form.Orderly now) (present : form.isRemoved = false)
    (edit : form.Edit now new) : new.Orderly now := by
  cases edit with
  | retitled title remark =>
    have latest : form.current.date ≤ now := Int.le_trans orderly.dated orderly.updated
    exact { orderly with dated := latest, updated := Int.le_refl now }
  | rewritten code =>
    have rewritten : (form.rewritten code).Orderly now := { orderly with }
    exact rewritten.moved present (by decide)
  | published => exact orderly.moved present (by decide)
  | removed => exact orderly.moved present (by decide)

end Form

/-- Whether an operation lets no time run backwards. -/
def Op.IsForward : Op → Prop
  | .wait seconds => 0 ≤ seconds
  | .pace passing => ∀ passed ∈ passing, 0 ≤ passed
  | _ => True

/-- What passes after a reading is what the time is later at the next. -/
theorem Time.inMillis_read (time : Time) :
    time.read.inMillis = time.inMillis + time.passing.headD 0 := by
  simp only [Time.inMillis, Time.read]
  omega

theorem Time.le_read {time : Time} (forward : ∀ passed ∈ time.passing, 0 ≤ passed) :
    time.inMillis ≤ time.read.inMillis := by
  have passed : 0 ≤ time.passing.headD 0 := by
    cases held : time.passing with
    | nil => exact Int.le_refl 0
    | cons passed rest => exact forward passed (held ▸ List.mem_cons_self)
  rw [Time.inMillis_read]
  omega

namespace Ledger

/-- A ledger whose surveys are all in order, and whose clock does not run backwards. -/
structure Orderly (ledger : Ledger) : Prop where
  forms : ∀ form ∈ ledger.forms, form.Orderly ledger.now
  forward : ∀ passed ∈ ledger.time.passing, 0 ≤ passed

variable {ledger after : Ledger} {op : Op}

theorem Orderly.le_read (orderly : ledger.Orderly) : ledger.now ≤ ledger.read.now :=
  Time.le_read orderly.forward

theorem orderly_read (orderly : ledger.Orderly) : ledger.read.Orderly where
  forms form member := (orderly.forms form member).later orderly.le_read
  forward passed member := orderly.forward passed (List.mem_of_mem_tail member)

/-- No operation lets time run backwards, unless it says so. -/
theorem forward_perform (orderly : ledger.Orderly) (forward : op.IsForward) :
    ledger.now ≤ (ledger.perform op).2.now ∧
      ∀ passed ∈ (ledger.perform op).2.time.passing, 0 ≤ passed := by
  have read := orderly_read orderly
  have twice := orderly_read read
  have step := step_perform ledger op
  generalize (ledger.perform op).1 = answer at step
  generalize (ledger.perform op).2 = after at step ⊢
  cases step with
  | failed op fault time idsGiven passed =>
    rcases passed with rfl | rfl
    · exact ⟨Int.le_refl _, orderly.forward⟩
    · exact ⟨orderly.le_read, read.forward⟩
  | read => exact ⟨Int.le_refl _, orderly.forward⟩
  | waited seconds =>
    have passed : 0 ≤ seconds := forward
    refine ⟨?_, orderly.forward⟩
    simp only [now, later, Time.inMillis]
    omega
  | paced passing => exact ⟨Int.le_refl _, forward⟩
  | published => exact ⟨Int.le_trans orderly.le_read read.le_read, twice.forward⟩
  | _ => exact ⟨orderly.le_read, read.forward⟩

theorem orderly_perform (orderly : ledger.Orderly) (forward : op.IsForward) :
    (ledger.perform op).2.Orderly := by
  obtain ⟨passed, goesOn⟩ := forward_perform orderly forward
  refine ⟨fun form member => ?_, goesOn⟩
  rcases of_mem_forms_perform member with
    earlier | added | ⟨old, earlier, present, date, timed, edit⟩
  · exact (orderly.forms form earlier).later passed
  · obtain ⟨title, remark, questionType, owner, code, rfl⟩ := added
    exact (Form.orderly_fresh ..).later passed
  · have within : ledger.now ≤ date ∧ date ≤ (ledger.perform op).2.now := by
      rcases timed with rfl | ⟨rfl, left⟩
      · exact ⟨Int.le_refl _, passed⟩
      · refine ⟨orderly.le_read, ?_⟩
        have last : (ledger.perform op).2.now = ledger.read.read.now := congrArg Time.inMillis left
        rw [last]
        exact (orderly_read orderly).le_read
    exact (((orderly.forms old earlier).later within.1).edited present edit).later within.2

/-- A survey keeps its states, and an operation adds one at most. -/
theorem states_perform (sound : ledger.Sound) {id : Text} {form : Form}
    (held : ledger.form? id = some form) (op : Op) :
    ∃ later, (ledger.perform op).2.form? id = some later ∧
      (later.states = form.states ∨ ∃ state, later.states = form.states ++ [state]) := by
  cases effect_perform ledger op with
  | none forms => exact ⟨form, by rw [form?, forms]; exact held, .inl rfl⟩
  | addition new _ forms =>
    refine ⟨form, ?_, .inl rfl⟩
    rw [form?, forms, List.find?_append, ← form?, held, Option.some_or]
  | change other edited caller _ member _ _ date _ edit forms =>
    refine ⟨if form.id = edited.id then edited else form, ?_, ?_⟩
    · rw [form?, forms, ← form?, form?_put, held, Option.map_some]
    split
    · rename_i same
      have one : form = other := sound.eq_of_id member (mem_of_form? held) (same.trans edit.id_eq)
      subst one
      cases edit with
      | retitled => exact .inl rfl
      | rewritten | published | removed => exact .inr ⟨_, rfl⟩
    · exact .inl rfl

end Ledger

theorem statesIn_meta (status : Status) (form : Form) :
    statesIn status (.object form.metaEntries) =
      (form.statesIn status).map Milestone.toValue := by
  have listed : (Value.object form.metaEntries).get? "statusList" =
      some (.list (form.states.map Milestone.toValue)) := rfl
  rw [statesIn, listed]
  dsimp only
  rw [List.filter_map, Form.statesIn]
  have chosen : ((fun state => decide (textAt? "status" state = some status.name)) ∘
      Milestone.toValue) = fun state => decide (state.status = status) := by
    funext state
    have named : textAt? "status" state.toValue = some state.status.name := rfl
    simp only [Function.comp_apply, named, Option.some.injEq, Status.name_injective.eq_iff]
  rw [chosen]

/-- Every desk that operations lead to without time running backwards shows a ledger in order. -/
theorem Reachable.shows_orderly (reached : Reachable Op.IsForward desk) :
    ∃ ledger : Ledger, Shows desk ledger ∧ ledger.Sound ∧ ledger.Orderly := by
  induction reached with
  | opened clock =>
    exact ⟨_, shows_opened clock, Ledger.sound_opened clock, nofun, nofun⟩
  | step reached op forward ih =>
    obtain ⟨ledger, shows, sound, orderly⟩ := ih
    exact ⟨_, shows_after shows sound op, Ledger.sound_perform sound op,
      Ledger.orderly_perform orderly forward⟩

/-- What a meta document tells of the life of a survey up to a time: the states that it lists, the
current one, and when the survey was added and last changed. -/
structure Lifecycle (now : Int) (document : Value) (states : List Milestone) (current : Milestone)
    (created updated : Int) : Prop where
  listed : document.get? "statusList" = some (.list (states.map Milestone.toValue))
  shown : document.get? "curStatus" = some current.toValue
  start : document.get? "createDate" = some (.int created)
  change : document.get? "updateDate" = some (.int updated)
  begins : states.head? = some ⟨.new, created⟩
  newOnce : ∀ state ∈ states.tail, state.status ≠ .new
  ends : states.getLast? = some current
  removedLast : ∀ state ∈ states.dropLast, state.status ≠ .removed
  ordered : states.Pairwise fun earlier later => earlier.date ≤ later.date
  dates : created ≤ current.date ∧ current.date ≤ updated ∧ updated ≤ now

theorem Form.Orderly.lifecycle {form : Form} {now : Int} (orderly : form.Orderly now) :
    Lifecycle now (.object form.metaEntries) form.states form.current form.created
      form.updated where
  listed := rfl
  shown := rfl
  start := rfl
  change := rfl
  begins := orderly.begins
  newOnce := orderly.newOnce
  ends := List.getLast?_concat
  removedLast := by
    rw [states, List.dropLast_concat]
    exact orderly.removedLast
  ordered := orderly.ordered
  dates := ⟨orderly.created_le, orderly.dated, orderly.updated⟩

/-- As long as time does not run backwards, every stored meta document tells a life in order, and
every operation leaves the states that it lists as they are or adds one at the end. -/
theorem surveys_live_in_order (reached : Reachable Op.IsForward desk) :
    (∀ document ∈ documentsIn desk metaCollection, ∃ states current created updated,
      Lifecycle desk.now document states current created updated) ∧
    ∀ (op : Op) (id : Text) (before : Document),
      documentUnder? desk metaCollection id = some before →
      ∃ states after, before.named.get? "statusList" = some (.list states) ∧
        documentUnder? (op.after desk) metaCollection id = some after ∧
        (after.named.get? "statusList" = some (.list states) ∨
          ∃ state, after.named.get? "statusList" = some (.list (states ++ [state]))) := by
  obtain ⟨ledger, shows, sound, orderly⟩ := reached.shows_orderly
  constructor
  · intro document stored
    rw [documentsIn_metas shows] at stored
    obtain ⟨form, member, rfl⟩ := List.mem_map.mp stored
    rw [now_of_shows shows]
    exact ⟨_, _, _, _, (orderly.forms form member).lifecycle⟩
  · intro op id before found
    rw [metaUnder?_eq shows] at found
    obtain ⟨form, held, rfl⟩ := Option.map_eq_some_iff.mp found
    obtain ⟨later, heldLater, states⟩ := Ledger.states_perform sound held op
    have listed (form : Form) : form.metaDocument.named.get? "statusList" =
        some (.list (form.states.map Milestone.toValue)) := by
      rw [Form.named_metaDocument]
      rfl
    refine ⟨_, later.metaDocument, listed form, ?_, ?_⟩
    · rw [metaUnder?_eq (shows_after shows sound op), heldLater, Option.map_some]
    · rw [listed later]
      rcases states with same | ⟨state, more⟩
      · exact .inl (by rw [same])
      · exact .inr ⟨state.toValue, by rw [more, List.map_append, List.map_singleton]⟩

private def gil : Caller := ⟨"7", "gil"⟩

/-- Gil adds a survey, saves its content two seconds later and then removes it; what comes after
that is refused. -/
private def gilsRun : List Op := [
  .add (.str "a") .null .null gil .null, .wait 2, .saveConfig (.str "id1") (.object []) gil,
  .delete (.str "id1") gil, .publish (.str "id1") gil]

private def gilsSurvey : Form where
  id := "id1"
  title := .str "a"
  remark := .null
  questionType := .null
  owner := gil
  past := [⟨.new, 0⟩, ⟨.editing, 2000⟩]
  current := ⟨.removed, 2000⟩
  created := 0
  updated := 2000
  code := some (.object [])

/-- The survey that Gil removed tells its life, to which nobody can add. -/
theorem surveys_live_in_order_removed :
    Reachable Op.IsForward (Op.run gilsRun (Desk.opened 0)) ∧
    documentsIn (Op.run gilsRun (Desk.opened 0)) metaCollection =
      [.object gilsSurvey.metaEntries] ∧
    ∃ states current created updated,
      Lifecycle 2000 (.object gilsSurvey.metaEntries) states current created updated := by
  have reached : Reachable Op.IsForward (Op.run gilsRun (Desk.opened 0)) := by
    apply (Reachable.opened 0).run
    simp [gilsRun, Op.IsForward]
  have shows := shows_run (shows_opened 0) (Ledger.sound_opened 0) gilsRun
  have held : (Ledger.run (Ledger.opened 0) gilsRun).forms = [gilsSurvey] := by
    with_unfolding_all rfl
  have now : (Op.run gilsRun (Desk.opened 0)).now = 2000 :=
    (now_of_shows shows).trans (by decide +kernel)
  have stored := documentsIn_metas shows
  rw [held] at stored
  obtain ⟨lives, -⟩ := surveys_live_in_order reached
  rw [now, stored] at lives
  exact ⟨reached, stored, lives _ (List.mem_singleton_self _)⟩

end SurveyDesk.Survey
