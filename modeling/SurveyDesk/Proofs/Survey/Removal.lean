import SurveyDesk.Proofs.Store.Page
import SurveyDesk.Proofs.Survey.OwnView
import SurveyDesk.Proofs.Survey.Ownership

/-! Removing a survey is final. Whatever is asked for a survey that was removed is refused as if it
had never been there, to its owner too, and no list shows it; so nothing can change its documents or
add a response to it, and it stays removed. -/
namespace SurveyDesk.Survey

/-- Whether an operation is on the survey with an id, be it only to copy from it. -/
def Op.IsOn (id : Text) : Op → Prop
  | .get name _ | .update name _ _ _ | .delete name _ | .saveConfig name _ _ | .publish name _
  | .data name _ _ _ _ | .addResponse name _ => name = .str id
  | .create _ _ _ method source _ => method.equals (.str copyMethod) = true ∧ source = .str id
  | _ => False

/-- The responses to the survey with an id, in the order in which they were made. -/
def responsesTo (desk : Desk) (id : Text) : List Value :=
  (documentsIn desk responseCollection).filter fun response => textAt? "pageId" response = some id

/-- Whether a desk holds the same documents of a survey as another, and the same responses to it. -/
structure HoldsSame (id : Text) (before after : Desk) : Prop where
  documents : ∀ name ∈ surveyCollections,
    documentUnder? after name id = documentUnder? before name id
  responses : responsesTo after id = responsesTo before id

/-- Whether a survey is out of everybody's reach: whatever is asked for it is refused as not found,
and it is on no page of any list. -/
structure OutOfReach (id : Text) (desk : Desk) : Prop where
  refused : ∀ op : Op, op.IsOn id → op.answer desk = .error (missing (.str id))
  unlisted : ∀ number size predicate order caller answer documents,
    (Op.list number size predicate order caller).answer desk = .ok (.value answer) →
    answer.get? "data" = some (.list documents) →
    ∀ document ∈ documents, textAt? "_id" document ≠ some id

namespace Ledger

variable {ledger : Ledger} {form : Form} {op : Op} {id : Text}

/-! ## What is refused -/

theorem seek_removed (held : ledger.form? id = some form) (removed : form.isRemoved = true) :
    ledger.seek (.str id) = .error (missing (.str id)) := by
  rw [seek, Store.firstNamed_text, ← form?, held]
  exact if_pos removed

theorem own_removed (held : ledger.form? id = some form) (removed : form.isRemoved = true)
    (caller : Caller) : ledger.own (.str id) caller = .error (missing (.str id)) := by
  rw [own, seek_removed held removed]

/-- Whatever is asked for a survey that was removed is refused. -/
theorem refused_of_removed (held : ledger.form? id = some form) (removed : form.isRemoved = true)
    (on : op.IsOn id) : (ledger.perform op).1 = .error (missing (.str id)) := by
  have sought := seek_removed held removed
  have owned := own_removed held removed
  cases op with
  | get | update | delete | saveConfig | publish =>
    obtain rfl := on
    simp only [perform, withOwn, owned]
  | addResponse name answers =>
    obtain rfl := on
    simp only [perform, addResponse, sought]
  | data name caller hide number size =>
    obtain rfl := on
    simp only [perform, sheet, owned, error_bind]
  | create title remark questionType method source caller =>
    obtain ⟨copies, rfl⟩ := on
    simp only [perform, if_pos copies, withOwn, owned]
  | add | list | bannerData | addHistory | historyList | wait | pace => exact on.elim

/-- What is listed are surveys that may be listed for the caller. -/
theorem of_listed {number size : Int} {predicate answer : Value} {order : SortSpec}
    {documents : List Value}
    (answered : ledger.list number size predicate order caller = .ok (.value answer))
    (data : answer.get? "data" = some (.list documents)) :
    ∀ document ∈ documents, ∃ form ∈ ledger.forms, form.isListedFor caller = true ∧
      document = .object form.metaEntries := by
  obtain ⟨page, found, made⟩ := bind_eq_ok.mp answered
  obtain ⟨hits, hit, -, subperm⟩ := Store.pageOf_ok (mapError_eq_ok.mp found)
  cases made
  obtain rfl : page.documents = documents := Value.list.inj (Option.some.inj data)
  intro document shown
  obtain ⟨stored, member, rfl⟩ := List.mem_map.mp (subperm.subset shown)
  rw [Store.hits_eq_filter hit] at member
  obtain ⟨form, there, rfl⟩ := List.mem_map.mp (List.mem_filter.mp member).1
  obtain ⟨held, listed⟩ := List.mem_filter.mp there
  exact ⟨form, held, listed, form.shown_metaDocument⟩

theorem unlisted_of_removed (sound : ledger.Sound) (held : ledger.form? id = some form)
    (removed : form.isRemoved = true) {number size : Int} {predicate answer : Value}
    {order : SortSpec} {documents : List Value}
    (answered : ledger.list number size predicate order caller = .ok (.value answer))
    (data : answer.get? "data" = some (.list documents)) :
    ∀ document ∈ documents, textAt? "_id" document ≠ some id := by
  intro document shown named
  obtain ⟨other, there, listed, rfl⟩ := of_listed answered data document shown
  have same : other.id = form.id := by
    rw [id_of_form? held]
    exact Option.some.inj named
  obtain rfl := sound.eq_of_id (mem_of_form? held) there same
  simp [Form.isListedFor, removed] at listed

/-! ## What stays -/

/-- The responses to the survey with an id. -/
def responsesTo (ledger : Ledger) (id : Text) : List Response :=
  ledger.responses.filter (·.isTo [id])

/-- Whether two ledgers say the same of a survey. -/
structure SaysSame (id : Text) (before after : Ledger) : Prop where
  form : after.form? id = before.form? id
  publication : after.publication? id = before.publication? id
  responses : after.responsesTo id = before.responsesTo id

theorem SaysSame.refl (id : Text) (ledger : Ledger) : SaysSame id ledger ledger := ⟨rfl, rfl, rfl⟩

theorem SaysSame.trans {between after : Ledger} (first : SaysSame id ledger between)
    (second : SaysSame id between after) : SaysSame id ledger after :=
  ⟨second.form.trans first.form, second.publication.trans first.publication,
    second.responses.trans first.responses⟩

/-- Nobody responds to a survey that was removed. -/
theorem responsesTo_perform (held : ledger.form? id = some form)
    (removed : form.isRemoved = true) (op : Op) :
    (ledger.perform op).2.responsesTo id = ledger.responsesTo id := by
  have step := step_perform ledger op
  generalize (ledger.perform op).1 = answer at step
  generalize (ledger.perform op).2 = after at step ⊢
  cases step with
  | responded survey answers other found =>
    have elsewhere : (ledger.response survey answers).isTo [id] = false := by
      unfold Response.isTo
      split
      · rename_i text named
        have different : text ≠ id := by
          rintro rfl
          obtain rfl : survey = .str text := named
          cases (seek_removed held removed).symm.trans found
        simp [different]
      · rfl
    rw [responsesTo, List.filter_append, List.filter_singleton, elsewhere]
    exact List.append_nil _
  | _ => rfl

/-- No operation changes what is said of a survey that was removed. -/
theorem saysSame_perform (sound : ledger.Sound) (held : ledger.form? id = some form)
    (removed : form.isRemoved = true) (op : Op) : SaysSame id ledger (ledger.perform op).2 := by
  have spared : form.isRemoved = false → op.IsNotBy form.owner.id :=
    fun present => by cases removed.symm.trans present
  obtain ⟨forms, publications⟩ := untouched_perform sound held spared
  exact ⟨forms, publications, responsesTo_perform held removed op⟩

theorem saysSame_run (sound : ledger.Sound) (held : ledger.form? id = some form)
    (removed : form.isRemoved = true) (ops : List Op) : SaysSame id ledger (ledger.run ops) := by
  induction ops generalizing ledger with
  | nil => exact .refl id ledger
  | cons op rest ih =>
    have same := saysSame_perform sound held removed op
    exact same.trans (ih (sound_perform sound op) (same.form.trans held))

/-- A survey whose removal is answered has been removed. -/
theorem removed_of_delete (sound : ledger.Sound)
    (answered : (ledger.perform (.delete (.str id) caller)).1 = .ok reply) :
    ∃ form, (ledger.perform (.delete (.str id) caller)).2.form? id = some form ∧
      form.isRemoved = true := by
  cases owned : ledger.own (.str id) caller with
  | error fault =>
    rw [perform, withOwn, owned] at answered
    cases answered
  | ok form =>
    obtain rfl : id = form.id := Value.str.inj (eq_id_of_own rfl owned)
    have held : ledger.form? form.id = some form :=
      Keyed.find?_of_mem sound.distinct (mem_of_own owned)
    refine ⟨form.moved .removed ledger.now, ?_, rfl⟩
    rw [perform, withOwn, owned]
    refine (form?_put ledger _ form.id).trans ?_
    rw [held, Option.map_some]
    exact congrArg some (if_pos rfl)

end Ledger

/-! ## What is stored -/

variable {desk after : Desk} {ledger left : Ledger} {form : Form} {id : Text}

theorem responsesTo_shown (shows : Shows desk ledger) (id : Text) :
    responsesTo desk id =
      (ledger.responsesTo id).map fun response => .object response.entries := by
  rw [responsesTo, documentsIn_responses shows, List.filter_map, Ledger.responsesTo]
  refine congrArg _ (List.filter_congr fun response _ => ?_)
  have survey : (Value.object response.entries).get? "pageId" = some response.survey := rfl
  rw [Function.comp_apply, textAt?, survey, Response.isTo]
  cases response.survey <;> simp

theorem holdsSame_of_shows (before : Shows desk ledger) (sound : ledger.Sound)
    (later : Shows after left) (soundLater : left.Sound) (same : Ledger.SaysSame id ledger left) :
    HoldsSame id desk after where
  documents := by
    intro name member
    simp only [surveyCollections, List.mem_cons, List.not_mem_nil, or_false] at member
    rcases member with rfl | rfl | rfl
    · rw [metaUnder?_eq later, metaUnder?_eq before, same.form]
    · rw [configUnder?_eq later soundLater, configUnder?_eq before sound, same.form]
    · rw [publicationUnder?_eq later, publicationUnder?_eq before, same.publication]
  responses := by rw [responsesTo_shown later, responsesTo_shown before, same.responses]

theorem outOfReach_of_shows (shows : Shows desk ledger) (sound : ledger.Sound)
    (held : ledger.form? id = some form) (removed : form.isRemoved = true) :
    OutOfReach id desk where
  refused := by
    intro op on
    rw [answer_eq shows sound]
    exact Ledger.refused_of_removed held removed on
  unlisted := by
    intro number size predicate order caller answer documents answered data
    rw [answer_eq shows sound] at answered
    exact Ledger.unlisted_of_removed sound held removed answered data

/-- Once a survey has been removed it is out of everybody's reach, and nothing changes its documents
or responds to it, whatever operations follow. -/
theorem removed_for_good (shows : Shows desk ledger) (sound : ledger.Sound)
    (held : ledger.form? id = some form) (removed : form.isRemoved = true) (ops : List Op) :
    HoldsSame id desk (Op.run ops desk) ∧ OutOfReach id (Op.run ops desk) := by
  have same := Ledger.saysSame_run sound held removed ops
  have later := shows_run shows sound ops
  have soundLater := Ledger.sound_run sound ops
  exact ⟨holdsSame_of_shows shows sound later soundLater same,
    outOfReach_of_shows later soundLater (same.form.trans held) removed⟩

end SurveyDesk.Survey
