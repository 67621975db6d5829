import SurveyDesk.Proofs.Http.FailedRequests
import SurveyDesk.Proofs.Survey.Removal

/-! Removing a survey is final for requests too. A request can only do to a survey what operations
can, and it records in the history only what it has done; so once a request is answered that a
survey has been removed, nothing is recorded of it any more. -/
namespace SurveyDesk.Survey

/-- The history records of the survey with an id, in the order in which they were made. -/
def historyOf (desk : Desk) (id : Text) : List Value :=
  (documentsIn desk historyCollection).filter fun record => textAt? "pageId" record = some id

/-- The history records of the survey with an id. -/
def Ledger.historyOf (ledger : Ledger) (id : Text) : List Snapshot :=
  ledger.snapshots.filter (·.subject? = some id)

/-- Whether a ledger says the same of a survey as one before, and has the same history of it. -/
structure Ledger.Keeps (id : Text) (before after : Ledger) : Prop where
  survey : SaysSame id before after
  history : after.historyOf id = before.historyOf id

variable {desk : Desk} {ledger : Ledger}

theorem Ledger.historyOf_recorded (ledger : Ledger) {id other : Text} (different : other ≠ id)
    (type : HistoryType) (code : Value) (caller : Caller) :
    (ledger.recorded other type code caller).historyOf id = ledger.historyOf id := by
  have subject : (ledger.snapshot (.str other) type code caller).subject? = some other := rfl
  rw [historyOf, recorded, List.filter_append, List.filter_singleton, subject]
  simp [different, historyOf]

theorem historyOf_shown (shows : Shows desk ledger) (id : Text) :
    historyOf desk id = (ledger.historyOf id).map fun snapshot => .object snapshot.entries := by
  rw [historyOf, documentsIn_snapshots shows, List.filter_map, Ledger.historyOf]
  refine congrArg _ (List.filter_congr fun snapshot _ => ?_)
  rw [Function.comp_apply, textAt?_subject]

end SurveyDesk.Survey

namespace SurveyDesk.Http

open Survey (Form Ledger Op Shows HoldsSame OutOfReach historyOf surveyCollections documentUnder?)

variable {setup : Setup} {desk after : Desk} {ledger left : Ledger} {form : Form} {id : Text}
  {request : Request}

/-- Whether a request to remove a survey is answered that the survey with an id was removed. -/
def Removes (setup : Setup) (desk : Desk) (request : Request) (id : Text) : Prop :=
  Route.ofPath? request.path = some (.operation .delete) ∧ request.method = "POST" ∧
    ((serve setup request).run desk).1.content =
      .value (envelopeOf (.object [("surveyId", .str id)]))

/-! ## When a survey has been removed -/

/-- No failure looks like a success. -/
theorem content_of_failure (failure : Failure) (data : Value) :
    failure.response.content ≠ .value (envelopeOf data) := by
  have enveloped (code : RefusalCode) (message : Text) :
      (Failure.envelope code message).content ≠ .value (envelopeOf data) := by
    cases message <;> simp [Failure.envelope, Response.ofValue, Response.broken, envelopeOf]
  cases failure with
  | invalid fault => exact enveloped .badParameters fault.message
  | refused code message => exact enveloped code message
  | _ => simp [Failure.response, Response.ofDetail, Response.ofValue, Response.broken, envelopeOf]

/-- What the answer to a removal shows is the id of the survey. -/
theorem content_of_removal (gave : ledger.Gave id) :
    (success (.object [("surveyId", .str id)])).content =
      .value (envelopeOf (.object [("surveyId", .str id)])) := by
  obtain ⟨n, -, rfl⟩ := gave
  rfl

/-- A request that is answered that a survey was removed has removed it. -/
theorem removed_of_removes (shows : Shows desk ledger) (sound : ledger.Sound)
    (removes : Removes setup desk request id) :
    ∃ left form, Shows ((serve setup request).run desk).2 left ∧ left.Sound ∧
      left.form? id = some form ∧ form.isRemoved = true := by
  obtain ⟨path, method, content⟩ := removes
  cases admitted : Operation.delete.admitted setup.secrets request desk.clock with
  | error failure =>
    have answered := answer_operation .delete setup.secrets request desk
    rw [admitted] at answered
    obtain ⟨headers, run⟩ := serve_operation path method answered
    rw [run] at content
    exact absurd content (content_of_failure failure _)
  | ok found =>
    obtain ⟨body, claims⟩ := found
    obtain ⟨left, shown, handled⟩ := comes_answer shows sound .delete claims body request
    generalize answered : (Operation.delete.answer claims body request).outcome desk = outcome
      at shown handled
    obtain ⟨result, after⟩ := outcome
    obtain ⟨headers, run⟩ := serve_admitted path method admitted answered
    rw [run] at content ⊢
    have kept : left.Sound := handled.sound sound
    cases handled with
    | failed _ failure => exact absurd content (content_of_failure failure _)
    | shown _ reads => cases reads
    | added _ adds => rcases adds with adds | adds <;> cases adds
    | removed caller form _ owned =>
      have gave : ledger.Gave form.id := sound.forms form (Ledger.mem_of_own owned)
      have same : envelopeOf (.object [("surveyId", .str form.id)]) =
          envelopeOf (.object [("surveyId", .str id)]) :=
        Content.value.inj ((content_of_removal gave).symm.trans content)
      obtain rfl : form.id = id := by simpa [envelopeOf] using same
      have held : ledger.form? form.id = some form :=
        Keyed.find?_of_mem sound.distinct (Ledger.mem_of_own owned)
      refine ⟨_, form.moved .removed ledger.now, shown, kept, ?_, rfl⟩
      refine (Ledger.form?_put ledger.read _ form.id).trans ?_
      rw [show ledger.read.form? form.id = some form from held]
      exact congrArg some (if_pos rfl)

/-! ## What follows -/

/-- Handling a request records nothing of a survey that was removed. -/
theorem historyOf_handled (held : ledger.form? id = some form) (removed : form.isRemoved = true)
    (handled : Handled ledger claims body wanted result left) :
    left.historyOf id = ledger.historyOf id := by
  have others {other : Form} {caller : Caller}
      (owned : ledger.own (.str other.id) caller = .ok other) : other.id ≠ id := by
    rintro rfl
    cases (Ledger.own_removed held removed caller).symm.trans owned
  cases handled with
  | saved code caller other _ _ owned | published code caller other _ _ owned =>
    exact Ledger.historyOf_recorded _ (others owned) _ _ _
  | _ => rfl

/-- A request keeps saying the same of a survey that was removed. -/
theorem keeps_handled {before : Ledger} (sound : before.Sound) (held : ledger.form? id = some form)
    (removed : form.isRemoved = true) (keeps : Ledger.Keeps id ledger before)
    (handled : Handled before claims body wanted result left) : Ledger.Keeps id ledger left := by
  have there := keeps.survey.form.trans held
  obtain ⟨ops, ran⟩ := handled.ran sound
  have later := Ledger.saysSame_run sound there removed ops
  rw [← ran] at later
  exact ⟨keeps.survey.trans later, (historyOf_handled there removed handled).trans keeps.history⟩

/-- Once a survey has been removed, no request changes what is said of it, and none is recorded. -/
theorem removed_onward (shows : Shows desk ledger) (sound : ledger.Sound)
    (held : ledger.form? id = some form) (removed : form.isRemoved = true)
    (onward : Onward setup desk after) :
    HoldsSame id desk after ∧ OutOfReach id after ∧ historyOf after id = historyOf desk id := by
  obtain ⟨left, shown, kept, same, history⟩ := onward.keeps (Ledger.Keeps id ledger) shows sound
    ⟨.refl id ledger, rfl⟩ (fun sound keeps did => keeps_handled sound held removed keeps did)
    fun _ keeps => ⟨⟨keeps.survey.form, keeps.survey.publication, keeps.survey.responses⟩,
      keeps.history⟩
  refine ⟨Survey.holdsSame_of_shows shows sound shown kept same,
    Survey.outOfReach_of_shows shown kept (same.form.trans held) removed, ?_⟩
  rw [Survey.historyOf_shown shown, Survey.historyOf_shown shows, history]

/-- Removing a survey is final. Once an operation has removed it, every operation on it is refused
as not found, no list shows it, and no operation changes its documents or responds to it. Once a
request was answered that it has been removed, the same holds whatever requests follow, and nothing
is recorded of it in the history. -/
theorem removal_is_final :
    (∀ (desk : Desk) (id : Text) (caller : Caller) (reply : Survey.Reply),
      Survey.Reachable Op.any desk → (Op.delete (.str id) caller).answer desk = .ok reply →
      let removed := (Op.delete (.str id) caller).after desk
      ∀ ops : List Op, HoldsSame id removed (Op.run ops removed) ∧
        OutOfReach id (Op.run ops removed)) ∧
    ∀ (setup : Setup) (desk : Desk) (request : Request) (id : Text),
      Visited setup desk → Removes setup desk request id →
      let removed := ((serve setup request).run desk).2
      ∀ later, Onward setup removed later → HoldsSame id removed later ∧ OutOfReach id later ∧
        historyOf later id = historyOf removed id := by
  constructor
  · intro desk id caller reply reached answered removed ops
    obtain ⟨ledger, shows, sound⟩ := reached.shows
    rw [Survey.answer_eq shows sound] at answered
    obtain ⟨form, held, gone⟩ := Ledger.removed_of_delete sound answered
    exact Survey.removed_for_good (Survey.shows_after shows sound _)
      (Ledger.sound_perform sound _) held gone ops
  · intro setup desk request id visited removes removed later onward
    obtain ⟨ledger, shows, sound, -⟩ := visited.shows
    obtain ⟨left, form, shown, kept, held, gone⟩ := removed_of_removes shows sound removes
    exact removed_onward shown kept held gone onward

/-- Ida asks to remove her survey. -/
def idasRemoval : Request := idas "/api/surveyManage/delete" "\x7b\"surveyId\":\"id1\"\x7d"

private theorem removes_idasRemoval : Removes unshared idasDesk idasRemoval "id1" := by
  obtain ⟨shows, sound⟩ := shows_idasDesk
  have asked : surveyOfBody (.value (.object [("surveyId", .str "id1")])) = .ok idasSurvey.id := rfl
  have named : Caller.ofClaims (.object idasClaims) = .ok ida := rfl
  obtain ⟨after, removed, -⟩ := outcome_delete shows sound asked named own_idasSurvey
  have admitted : Operation.delete.admitted unshared.secrets idasRemoval idasDesk.clock =
      .ok (.value (.object [("surveyId", .str "id1")]), idasClaims) := by
    rw [shows.clock]
    exact admitted_idasRequest rfl rfl rfl
  obtain ⟨headers, run⟩ := serve_admitted rfl rfl admitted removed
  refine ⟨rfl, rfl, ?_⟩
  rw [run]
  exact rfl

/-- Ida removes a survey that she has just added and then asks for it; and a request of hers to
publish the survey that she has removed is not recorded. -/
theorem removal_is_final_justAdded :
    let desk := (Op.add (.str "t") .null .null ida .null).after (Desk.opened 0)
    let removed := (Op.delete (.str "id1") ida).after desk
    let left := ((serve unshared idasRemoval).run idasDesk).2
    Survey.Reachable Op.any desk ∧
    (Op.delete (.str "id1") ida).answer desk = .ok (Survey.surveyAnswer (.str "id1")) ∧
    (Op.get (.str "id1") ida).answer (Op.run [.wait 5] removed) =
      .error (Survey.missing (.str "id1")) ∧
    Visited unshared idasDesk ∧ Removes unshared idasDesk idasRemoval "id1" ∧
    historyOf ((serve unshared idasPublication).run left).2 "id1" = historyOf left "id1" := by
  intro desk removed left
  have reached : Survey.Reachable Op.any desk := .step (.opened 0) _ trivial
  have answered : (Op.delete (.str "id1") ida).answer desk =
      .ok (Survey.surveyAnswer (.str "id1")) := by
    have opened := Ledger.sound_opened 0
    rw [Survey.answer_eq (Survey.shows_after (Survey.shows_opened 0) opened _)
      (Ledger.sound_perform opened _)]
    with_unfolding_all rfl
  have visited : Visited unshared idasDesk :=
    Visited.servedAll (.opened 1000) [idasAddition, idasContent]
  obtain ⟨-, unreachable⟩ := removal_is_final.1 desk "id1" ida _ reached answered [.wait 5]
  have unrecorded := removal_is_final.2 unshared idasDesk idasRemoval "id1" visited
    removes_idasRemoval _ (Onward.here.served idasPublication)
  exact ⟨reached, answered, unreachable.refused (.get (.str "id1") ida) rfl, visited,
    removes_idasRemoval, unrecorded.2.2⟩

end SurveyDesk.Http
