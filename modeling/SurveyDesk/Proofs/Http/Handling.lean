import SurveyDesk.Http.Answer
import SurveyDesk.Proofs.Survey.Copying

/-! What handling a request for an operation comes to, said once for all operations. Whatever fails
leaves all entries as they are, unless content is nested so deeply that the survey which it was
copied for is left without it, or that it is saved for such a survey and not recorded. Whatever
succeeds shows something, or adds a survey, or changes one that is the caller's own; content that is
saved or published is recorded in the history too. -/
namespace SurveyDesk.Survey

/-- What its owner is shown of a survey that is published with content and recorded in the history:
its meta document as it is then, what was published, and the id of the record. -/
def Form.publicationData (form : Form) (code : Value) (date : Int) (record : Text) : Value :=
  .object [
    ("surveyMetaRes", .object (form.moved .published date).metaEntries),
    ("surveyConfRes", .object [("pageId", .str form.id), ("code", code)]),
    ("historyRes", .object [("_id", .str record)])]

namespace Ledger

/-- The ledger once content has been saved for a survey. -/
def saved (ledger : Ledger) (form : Form) (code : Value) : Ledger :=
  ledger.read.put ((form.rewritten code).moved .editing ledger.now)

/-- The ledger once a survey has been published with content. -/
def issued (ledger : Ledger) (form : Form) (code : Value) : Ledger :=
  (ledger.read.read.published ⟨form.id, code, ledger.now⟩).put
    (form.moved .published ledger.read.now)

/-- The ledger with one more history record of a survey. -/
def recorded (ledger : Ledger) (id : Text) (type : HistoryType) (code : Value)
    (caller : Caller) : Ledger :=
  { ledger.read with
    snapshots := ledger.snapshots ++ [ledger.snapshot (.str id) type code caller]
    idsGiven := ledger.idsGiven + 1 }

/-- The ledger once an id has been given out for a history record that was not made. -/
def unrecorded (ledger : Ledger) : Ledger :=
  { ledger.read with idsGiven := ledger.idsGiven + 1 }

variable {ledger : Ledger} {form : Form} {caller : Caller}

theorem perform_withOwn {id : Value} {work : Form → Except Fault Reply × Ledger}
    (owned : ledger.own id caller = .ok form) : ledger.withOwn id caller work = work form := by
  rw [withOwn, owned]

theorem perform_not_own {id : Value} {work : Form → Except Fault Reply × Ledger} {fault : Fault}
    (owned : ledger.own id caller = .error fault) :
    ledger.withOwn id caller work = (.error fault, ledger) := by
  rw [withOwn, owned]

/-- The default content is never nested too deeply. -/
theorem copyable_default (title questionType : Text) :
    Copyable 5 (codeFor (.str title) (.str questionType) .null) := by
  simp [codeFor, defaultCode, Copyable, copyCalls, copyCalls.entriesCalls, copyCalls.itemsCalls,
    callRoom]

theorem perform_add (title remark questionType : Text) (caller : Caller) :
    ledger.perform (.add (.str title) (.str remark) (.str questionType) caller .null) =
      (.ok (pageAnswer ledger.nextId), ledger.added (.str title) (.str remark) (.str questionType)
        caller (codeFor (.str title) (.str questionType) .null)) := by
  have fits : Copyable 4 (codeFor (.str title) (.str questionType) .null) :=
    (copyable_default title questionType).mono (by decide)
  rw [perform, add]
  exact if_pos fits

theorem perform_update (title remark : Value)
    (owned : ledger.own (.str form.id) caller = .ok form) :
    ledger.perform (.update (.str form.id) title remark caller) =
      (.ok (surveyAnswer (.str form.id)),
        ledger.read.put (form.retitled title remark ledger.now)) :=
  (perform_withOwn owned).trans (if_pos rfl)

theorem perform_save (code : Value) (owned : ledger.own (.str form.id) caller = .ok form) :
    ledger.perform (.saveConfig (.str form.id) code caller) =
      if form.code.isSome ∧ ¬ Copyable 4 code then (.error .tooDeep, ledger)
      else (.ok (surveyAnswer (.str form.id)), ledger.saved form code) :=
  (perform_withOwn owned).trans (if_pos rfl)

theorem perform_publish (sound : ledger.Sound)
    (owned : ledger.own (.str form.id) caller = .ok form) :
    ledger.perform (.publish (.str form.id) caller) =
      match form.code with
      | none => (.error (withoutContent (.str form.id)), ledger)
      | some code =>
        (.ok (form.publishedAnswer code ledger.read.now), ledger.issued form code) := by
  have named := contentNamed_id sound (mem_of_own owned)
  rw [perform, perform_withOwn owned, publish, named, Form.content?]
  cases form.code <;> rfl

theorem perform_record (id : Text) (type : HistoryType) (code : Value) (caller : Caller) :
    ledger.perform (.addHistory (.str id) code (.str type.name) caller) =
      if Copyable 4 code then
        (.ok (recordAnswer ledger.nextId), ledger.recorded id type code caller)
      else (.error .tooDeep, ledger.unrecorded) := by
  have room : Copyable 2 (.object (ledger.snapshot (.str id) type code caller).entries) ↔
      Copyable 4 code := copyable_snapshot rfl (by decide)
  have named : HistoryType.ofValue (.str type.name) = .ok type := by cases type <;> rfl
  rw [perform, addHistory, named]
  by_cases fits : Copyable 4 code
  · rw [if_pos fits]
    exact if_pos (room.mpr fits)
  · rw [if_neg fits]
    exact if_neg (mt room.mp fits)

end Ledger
end SurveyDesk.Survey

namespace SurveyDesk.Http

open Survey (Form Ledger Op Reply Shows codeFor)

namespace Handling

/-! ## Handling in steps -/

/-- What handling gives and the desk that it leaves. -/
def outcome (handling : Handling α) (desk : Desk) : Except Failure α × Desk := handling.run.run desk

variable {desk after : Desk} {failure : Failure}

@[simp] theorem outcome_known (result : Except Failure α) (desk : Desk) :
    outcome (ExceptT.mk (pure result)) desk = (result, desk) := rfl

@[simp] theorem outcome_get (desk : Desk) : outcome MonadState.get desk = (.ok desk, desk) := rfl

theorem outcome_bind (handling : Handling α) (next : α → Handling β) (desk : Desk) :
    outcome (handling >>= next) desk =
      match outcome handling desk with
      | (.ok answer, after) => outcome (next answer) after
      | (.error failure, after) => (.error failure, after) := by
  have unfolded : outcome (handling >>= next) desk =
      outcome (ExceptT.mk (handling.run >>= ExceptT.bindCont next)) desk := rfl
  rw [unfolded]
  simp only [outcome, ExceptT.run, ExceptT.mk, StateT.run_bind]
  simp only [StateT.run]
  cases handling desk with
  | mk answer after => cases answer <;> rfl

theorem outcome_bind_ok {handling : Handling α} {next : α → Handling β}
    (first : outcome handling desk = (.ok answer, after)) :
    outcome (handling >>= next) desk = outcome (next answer) after := by
  rw [outcome_bind, first]

theorem outcome_bind_error {handling : Handling α} {next : α → Handling β}
    (first : outcome handling desk = (.error failure, after)) :
    outcome (handling >>= next) desk = (.error failure, after) := by
  rw [outcome_bind, first]

@[simp] theorem outcome_map (change : α → β) (handling : Handling α) (desk : Desk) :
    outcome (change <$> handling) desk =
      ((outcome handling desk).1.map change, (outcome handling desk).2) := by
  rw [map_eq_pure_bind, outcome_bind]
  cases outcome handling desk with
  | mk answer after => cases answer <;> rfl

@[simp] theorem outcome_ofInput (result : Except InputFault α) (desk : Desk) :
    outcome (ofInput result) desk = (result.mapError Failure.invalid, desk) := rfl

@[simp] theorem outcome_ofOutcome (result : Except Fault α) (desk : Desk) :
    outcome (ofOutcome result) desk = (result.mapError Failure.ofFault, desk) := rfl

theorem outcome_ofWork (work : Work α) (desk : Desk) :
    outcome (ofWork work) desk =
      ((work.outcome desk).1.mapError Failure.ofFault, (work.outcome desk).2) := rfl

end Handling

open Handling

/-! ## What operations come to -/

/-- A request for an operation, made with these claims and this body, what it is answered, and the
ledger that it leaves. -/
inductive Handled (ledger : Ledger) (claims : Entries) (body : RequestBody) :
    Operation → Except Failure Value → Ledger → Prop where
  | failed (wanted : Operation) (failure : Failure) :
    Handled ledger claims body wanted (.error failure) ledger
  | shown (wanted : Operation) (reads : wanted.readsBody = false) (value : Value) :
    Handled ledger claims body wanted (.ok value) ledger
  | added (wanted : Operation) (adds : wanted = .add ∨ wanted = .create)
    (title remark questionType : Text) (caller : Caller)
    (filled : ∀ text ∈ [title, remark, questionType], text ≠ "")
    (named : Caller.ofClaims (.object claims) = .ok caller) :
    Handled ledger claims body wanted (.ok (.object [("id", .str ledger.nextId)]))
      (ledger.added (.str title) (.str remark) (.str questionType) caller
        (codeFor (.str title) (.str questionType) .null))
  | copied (title remark : Text) (caller : Caller) (form : Form)
    (filled : ∀ text ∈ [title, remark], text ≠ "")
    (asked : CreateRequest.ofBody body = .ok ⟨remark, title, .copyOf form.id⟩)
    (named : Caller.ofClaims (.object claims) = .ok caller)
    (owned : ledger.own (.str form.id) caller = .ok form)
    (fits : Copyable 5 (codeFor (.str title) form.questionType (form.code.getD .null))) :
    Handled ledger claims body .create (.ok (.object [("id", .str ledger.nextId)]))
      (ledger.added (.str title) (.str remark) form.questionType caller
        (codeFor (.str title) form.questionType (form.code.getD .null)))
  | halfCopied (title remark : Text) (caller : Caller) (form : Form)
    (filled : ∀ text ∈ [title, remark], text ≠ "")
    (asked : CreateRequest.ofBody body = .ok ⟨remark, title, .copyOf form.id⟩)
    (named : Caller.ofClaims (.object claims) = .ok caller)
    (owned : ledger.own (.str form.id) caller = .ok form)
    (deep : ¬ Copyable 5 (codeFor (.str title) form.questionType (form.code.getD .null))) :
    Handled ledger claims body .create (.error (.ofFault .tooDeep))
      (ledger.added (.str title) (.str remark) form.questionType caller none)
  | updated (title remark : Text) (caller : Caller) (form : Form)
    (filled : ∀ text ∈ [title, remark], text ≠ "")
    (named : Caller.ofClaims (.object claims) = .ok caller)
    (owned : ledger.own (.str form.id) caller = .ok form) :
    Handled ledger claims body .update (.ok (.object [("surveyId", .str form.id)]))
      (ledger.read.put (form.retitled (.str title) (.str remark) ledger.now))
  | removed (caller : Caller) (form : Form)
    (named : Caller.ofClaims (.object claims) = .ok caller)
    (owned : ledger.own (.str form.id) caller = .ok form) :
    Handled ledger claims body .delete (.ok (.object [("surveyId", .str form.id)]))
      (ledger.read.put (form.moved .removed ledger.now))
  | saved (code : Entries) (caller : Caller) (form : Form)
    (asked : SaveRequest.ofBody body = .ok ⟨form.id, .object code⟩)
    (named : Caller.ofClaims (.object claims) = .ok caller)
    (owned : ledger.own (.str form.id) caller = .ok form)
    (fits : Copyable 4 (.object code)) :
    Handled ledger claims body .saveConfig
      (.ok (.object [("saveRes", .object [("surveyId", .str form.id)]),
        ("historyRes", .object [("_id", .str ledger.nextId)])]))
      ((ledger.saved form (.object code)).recorded form.id .daily (.object code) caller)
  | halfSaved (code : Entries) (caller : Caller) (form : Form)
    (asked : SaveRequest.ofBody body = .ok ⟨form.id, .object code⟩)
    (named : Caller.ofClaims (.object claims) = .ok caller)
    (owned : ledger.own (.str form.id) caller = .ok form)
    (bare : form.code = none) (deep : ¬ Copyable 4 (.object code)) :
    Handled ledger claims body .saveConfig (.error (.ofFault .tooDeep))
      (ledger.saved form (.object code)).unrecorded
  | published (code : Value) (caller : Caller) (form : Form)
    (asked : surveyOfBody body = .ok form.id)
    (named : Caller.ofClaims (.object claims) = .ok caller)
    (owned : ledger.own (.str form.id) caller = .ok form) (held : form.code = some code) :
    Handled ledger claims body .publish
      (.ok (form.publicationData code ledger.read.now ledger.nextId))
      ((ledger.issued form code).recorded form.id .publish code caller)

variable {desk : Desk} {ledger : Ledger} {claims : Entries} {body : RequestBody}
  {wanted : Operation} {request : Request} {caller : Caller} {form : Form}

/-- Work for an operation on the ledger that a desk shows. -/
theorem outcome_work (shows : Shows desk ledger) (sound : ledger.Sound) (op : Op)
    {wrap : α → Reply} {work : Work α} (made : op.perform = wrap <$> work) :
    ∃ (result : Except Fault α) (after : Desk),
      (ofWork work).outcome desk = (result.mapError Failure.ofFault, after) ∧
      result.map wrap = (ledger.perform op).1 ∧ Shows after (ledger.perform op).2 := by
  obtain ⟨answer, shown⟩ := Survey.meets_perform shows sound op
  rw [made, Work.outcome_map] at answer shown
  exact ⟨_, _, outcome_ofWork work desk, answer, shown⟩

/-- Work that succeeds on the ledger that a desk shows. -/
theorem outcome_work_ok (shows : Shows desk ledger) (sound : ledger.Sound) (op : Op)
    {work : Work Value} {value : Value} {left : Ledger} (made : op.perform = Reply.value <$> work)
    (performed : ledger.perform op = (.ok (.value value), left)) :
    ∃ after, (ofWork work).outcome desk = (.ok value, after) ∧ Shows after left := by
  obtain ⟨result, after, outcome, same, shown⟩ := outcome_work shows sound op made
  rw [performed] at same shown
  cases result with
  | error fault => cases same
  | ok answer =>
    cases same
    exact ⟨after, outcome, shown⟩

theorem outcome_input {parsed : Except InputFault α} {next : α → Handling β} {input : α}
    (read : parsed = .ok input) (desk : Desk) :
    (ofInput parsed >>= next).outcome desk = (next input).outcome desk := by
  rw [read]
  rfl

theorem outcome_caller {next : Caller → Handling β}
    (named : Caller.ofClaims (.object claims) = .ok caller) (desk : Desk) :
    (callerOf claims >>= next).outcome desk = (next caller).outcome desk := by
  rw [callerOf, named]
  rfl

/-- Handling comes to one of the cases at a desk that shows a ledger. -/
def Comes (handling : Handling Value) (desk : Desk) (ledger : Ledger) (claims : Entries)
    (body : RequestBody) (wanted : Operation) : Prop :=
  ∃ left, Shows (handling.outcome desk).2 left ∧
    Handled ledger claims body wanted (handling.outcome desk).1 left

private theorem comes_of_eq {handling : Handling Value} {after : Desk} {left : Ledger}
    {result : Except Failure Value} (same : handling.outcome desk = (result, after))
    (shows : Shows after left) (handled : Handled ledger claims body wanted result left) :
    Comes handling desk ledger claims body wanted := by
  rw [Comes, same]
  exact ⟨left, shows, handled⟩

/-- Handling that stops where a part of the request is not as it must be. -/
private theorem comes_bind {first : Handling α} {rest : α → Handling Value}
    {result : Except Failure α} (shows : Shows desk ledger)
    (reads : first.outcome desk = (result, desk))
    (good : ∀ answer, result = .ok answer → Comes (rest answer) desk ledger claims body wanted) :
    Comes (first >>= rest) desk ledger claims body wanted := by
  cases result with
  | error failure => exact comes_of_eq (outcome_bind_error reads) shows (.failed wanted failure)
  | ok answer =>
    rw [Comes, outcome_bind_ok reads]
    exact good answer rfl

private theorem comes_input {parsed : Except InputFault α} {rest : α → Handling Value}
    (shows : Shows desk ledger)
    (good : ∀ input, parsed = .ok input → Comes (rest input) desk ledger claims body wanted) :
    Comes (ofInput parsed >>= rest) desk ledger claims body wanted :=
  comes_bind shows (outcome_ofInput parsed desk) fun input read =>
    good input (mapError_eq_ok.mp read)

private theorem comes_caller {rest : Caller → Handling Value} (shows : Shows desk ledger)
    (good : ∀ caller, Caller.ofClaims (.object claims) = .ok caller →
      Comes (rest caller) desk ledger claims body wanted) :
    Comes (callerOf claims >>= rest) desk ledger claims body wanted :=
  comes_bind shows (outcome_ofOutcome _ desk) fun caller read =>
    good caller (mapError_eq_ok.mp read)

/-- Work that fails on the ledger that a desk shows. -/
theorem outcome_work_error (shows : Shows desk ledger) (sound : ledger.Sound) (op : Op)
    {work : Work Value} {fault : Fault} {left : Ledger} (made : op.perform = Reply.value <$> work)
    (performed : ledger.perform op = (.error fault, left)) :
    ∃ after, (ofWork work).outcome desk = (.error (.ofFault fault), after) ∧
      Shows after left := by
  obtain ⟨result, after, outcome, same, shown⟩ := outcome_work shows sound op made
  rw [performed] at same shown
  cases result with
  | ok answer => cases same
  | error stopped =>
    cases same
    exact ⟨after, outcome, shown⟩

/-- Handling that stops because work fails. -/
private theorem comes_failed {work : Work Value} {rest : Value → Handling Value} {fault : Fault}
    (shows : Shows desk ledger) (sound : ledger.Sound) (op : Op)
    (made : op.perform = Reply.value <$> work)
    (performed : ledger.perform op = (.error fault, ledger)) :
    Comes (ofWork work >>= rest) desk ledger claims body wanted := by
  obtain ⟨after, failed, shown⟩ := outcome_work_error shows sound op made performed
  exact comes_of_eq (outcome_bind_error failed) shown (.failed wanted _)

/-- Work that only reads, shown in some form. -/
private theorem comes_read {wrap : α → Reply} {work : Work α} (form : α → Value)
    (reads : wanted.readsBody = false) (shows : Shows desk ledger) (sound : ledger.Sound) (op : Op)
    (made : op.perform = wrap <$> work) (kept : (ledger.perform op).2 = ledger) :
    Comes (ofWork work >>= fun answer => pure (form answer)) desk ledger claims body wanted := by
  obtain ⟨result, after, outcome, -, shown⟩ := outcome_work shows sound op made
  rw [kept] at shown
  cases result with
  | error fault => exact comes_of_eq (outcome_bind_error outcome) shown (.failed wanted _)
  | ok answer => exact comes_of_eq (outcome_bind_ok outcome) shown (.shown wanted reads _)

/-! ## The operations one by one -/

theorem requiredText_filled {entries : Entries} {name : String} {text : Text}
    (read : requiredText entries name = .ok text) : text ≠ "" := by
  unfold requiredText at read
  split at read
  · cases read
  · split at read
    · cases read
    · split at read
      · cases read
      · rename_i filled
        cases read
        exact filled
  · cases read

theorem isObject_of_saveRequest {id : Text} {config : Value}
    (parsed : SaveRequest.ofBody body = .ok ⟨id, config⟩) : ∃ code, config = .object code := by
  simp only [SaveRequest.ofBody, bind_eq_ok] at parsed
  obtain ⟨entries, -, survey, -, object, read, ⟨⟩⟩ := parsed
  unfold requiredObject at read
  split at read
  · cases read
  · cases read
    exact ⟨_, rfl⟩
  · cases read

/-- A survey is added under the next id. -/
theorem outcome_add {input : AddRequest} (shows : Shows desk ledger) (sound : ledger.Sound)
    (asked : AddRequest.ofBody body = .ok input)
    (named : Caller.ofClaims (.object claims) = .ok caller) :
    ∃ after, (answerAdd claims body).outcome desk =
        (.ok (.object [("id", .str ledger.nextId)]), after) ∧
      Shows after (ledger.added (.str input.title) (.str input.remark) (.str input.questionType)
        caller (codeFor (.str input.title) (.str input.questionType) .null)) := by
  obtain ⟨after, added, shown⟩ := outcome_work_ok shows sound _ rfl
    (ledger.perform_add input.title input.remark input.questionType caller)
  refine ⟨after, ?_, shown⟩
  rw [answerAdd, outcome_input asked, outcome_caller named, outcome_bind_ok added]
  rfl

private theorem comes_add (shows : Shows desk ledger) (sound : ledger.Sound) :
    Comes (answerAdd claims body) desk ledger claims body .add := by
  refine comes_input shows fun input asked => comes_caller shows fun caller named => ?_
  obtain ⟨after, added, shown⟩ := outcome_add shows sound asked named
  rw [answerAdd, outcome_input asked, outcome_caller named] at added
  have filled : ∀ text ∈ [input.title, input.remark, input.questionType], text ≠ "" := by
    simp only [AddRequest.ofBody, bind_eq_ok] at asked
    obtain ⟨entries, -, remark, remarkRead, type, typeRead, title, titleRead, ⟨⟩⟩ := asked
    simp [requiredText_filled remarkRead, requiredText_filled typeRead,
      requiredText_filled titleRead]
  exact comes_of_eq added shown (.added .add (.inl rfl) _ _ _ caller filled named)

section
variable {title remark : Text}

/-- A survey that starts from nothing is added under the next id. -/
theorem outcome_anew {questionType : Text} (shows : Shows desk ledger) (sound : ledger.Sound)
    (asked : CreateRequest.ofBody body = .ok ⟨remark, title, .anew questionType⟩)
    (named : Caller.ofClaims (.object claims) = .ok caller) :
    ∃ after, (answerCreate claims body).outcome desk =
        (.ok (.object [("id", .str ledger.nextId)]), after) ∧
      Shows after (ledger.added (.str title) (.str remark) (.str questionType) caller
        (codeFor (.str title) (.str questionType) .null)) := by
  obtain ⟨after, added, shown⟩ := outcome_work_ok shows sound _ rfl
    (ledger.perform_add title remark questionType caller)
  refine ⟨after, ?_, shown⟩
  rw [answerCreate, outcome_input asked, outcome_caller named, outcome_bind_ok added]
  rfl

private theorem perform_copying (sound : ledger.Sound)
    (owned : ledger.own (.str form.id) caller = .ok form) :
    ledger.perform (.create (.str title) (.str remark) .null (.str Survey.copyMethod) (.str form.id)
      caller) = ledger.add 3 (.str title) (.str remark) form.questionType caller
        (form.code.getD .null) :=
  Ledger.perform_copy sound owned (by decide) _ _ _

/-- A copy is added under the next id. -/
theorem outcome_copied (shows : Shows desk ledger) (sound : ledger.Sound)
    (asked : CreateRequest.ofBody body = .ok ⟨remark, title, .copyOf form.id⟩)
    (named : Caller.ofClaims (.object claims) = .ok caller)
    (owned : ledger.own (.str form.id) caller = .ok form)
    (fits : Copyable 5 (codeFor (.str title) form.questionType (form.code.getD .null))) :
    ∃ after, (answerCreate claims body).outcome desk =
        (.ok (.object [("id", .str ledger.nextId)]), after) ∧
      Shows after (ledger.added (.str title) (.str remark) form.questionType caller
        (codeFor (.str title) form.questionType (form.code.getD .null))) := by
  obtain ⟨after, added, shown⟩ := outcome_work_ok shows sound _ rfl
    ((perform_copying sound owned).trans (if_pos fits))
  refine ⟨after, ?_, shown⟩
  rw [answerCreate, outcome_input asked, outcome_caller named]
  exact outcome_bind_ok added

/-- A copy of content that is nested too deeply is added without it, and is not answered. -/
theorem outcome_halfCopied (shows : Shows desk ledger) (sound : ledger.Sound)
    (asked : CreateRequest.ofBody body = .ok ⟨remark, title, .copyOf form.id⟩)
    (named : Caller.ofClaims (.object claims) = .ok caller)
    (owned : ledger.own (.str form.id) caller = .ok form)
    (deep : ¬ Copyable 5 (codeFor (.str title) form.questionType (form.code.getD .null))) :
    ∃ after, (answerCreate claims body).outcome desk = (.error (.ofFault .tooDeep), after) ∧
      Shows after (ledger.added (.str title) (.str remark) form.questionType caller none) := by
  obtain ⟨after, failed, shown⟩ := outcome_work_error shows sound _ rfl
    ((perform_copying sound owned).trans (if_neg deep))
  refine ⟨after, ?_, shown⟩
  rw [answerCreate, outcome_input asked, outcome_caller named]
  exact outcome_bind_error failed

end

private theorem comes_create (shows : Shows desk ledger) (sound : ledger.Sound) :
    Comes (answerCreate claims body) desk ledger claims body .create := by
  refine comes_input shows fun input asked => comes_caller shows fun caller named => ?_
  have parsed := asked
  simp only [CreateRequest.ofBody, bind_eq_ok] at parsed
  obtain ⟨entries, -, remark, remarkRead, title, titleRead, type, -, method, -, source, -, start,
    started, ⟨⟩⟩ := parsed
  have filled : ∀ text ∈ [title, remark], text ≠ "" := by
    simp [requiredText_filled remarkRead, requiredText_filled titleRead]
  cases start with
  | anew questionType =>
    have typed : questionType ≠ "" := by
      unfold Start.ofTexts at started
      split at started
      · split at started <;> cases started
      · split at started
        · cases started
        · cases started
        · rename_i filled
          cases started
          exact filled
    obtain ⟨after, added, shown⟩ := outcome_anew shows sound asked named
    rw [answerCreate, outcome_input asked, outcome_caller named] at added
    refine comes_of_eq added shown (.added .create (.inr rfl) _ _ _ caller ?_ named)
    simp [filled, typed]
  | copyOf id =>
    cases owned : ledger.own (.str id) caller with
    | error fault =>
      have performed : ledger.perform
          (.create (.str title) (.str remark) .null (.str Survey.copyMethod) (.str id) caller) =
            (.error fault, ledger) := by
        rw [Ledger.perform, if_pos (by decide), Ledger.perform_not_own owned]
      exact comes_failed shows sound _ rfl performed
    | ok form =>
      cases Ledger.eq_id_of_own rfl owned
      by_cases fits : Copyable 5 (codeFor (.str title) form.questionType (form.code.getD .null))
      · obtain ⟨after, copied, shown⟩ := outcome_copied shows sound asked named owned fits
        rw [answerCreate, outcome_input asked, outcome_caller named] at copied
        exact comes_of_eq copied shown
          (.copied title remark caller form filled asked named owned fits)
      · obtain ⟨after, copied, shown⟩ := outcome_halfCopied shows sound asked named owned fits
        rw [answerCreate, outcome_input asked, outcome_caller named] at copied
        exact comes_of_eq copied shown
          (.halfCopied title remark caller form filled asked named owned fits)

private theorem comes_update (shows : Shows desk ledger) (sound : ledger.Sound) :
    Comes (answerUpdate claims body) desk ledger claims body .update := by
  refine comes_input shows fun input parsed => comes_caller shows fun caller named => ?_
  have filled : ∀ text ∈ [input.title, input.remark], text ≠ "" := by
    simp only [UpdateRequest.ofBody, bind_eq_ok] at parsed
    obtain ⟨entries, -, id, -, remark, remarkRead, title, titleRead, ⟨⟩⟩ := parsed
    simp [requiredText_filled remarkRead, requiredText_filled titleRead]
  cases owned : ledger.own (.str input.survey) caller with
  | error fault =>
    rw [← bind_pure (ofWork _)]
    exact comes_failed shows sound
      (.update (.str input.survey) (.str input.title) (.str input.remark) caller) rfl
      (Ledger.perform_not_own owned)
  | ok form =>
    have same := Ledger.eq_id_of_own rfl owned
    rw [same] at owned ⊢
    obtain ⟨after, changed, shown⟩ := outcome_work_ok shows sound _ rfl
      (Ledger.perform_update (.str input.title) (.str input.remark) owned)
    exact comes_of_eq changed shown (.updated _ _ caller form filled named owned)

/-- A survey is removed under its id. -/
theorem outcome_delete (shows : Shows desk ledger) (sound : ledger.Sound)
    (asked : surveyOfBody body = .ok form.id)
    (named : Caller.ofClaims (.object claims) = .ok caller)
    (owned : ledger.own (.str form.id) caller = .ok form) :
    ∃ after, (answerDelete claims body).outcome desk =
        (.ok (.object [("surveyId", .str form.id)]), after) ∧
      Shows after (ledger.read.put (form.moved .removed ledger.now)) := by
  obtain ⟨after, removed, shown⟩ := outcome_work_ok shows sound
    (.delete (.str form.id) caller) rfl (Ledger.perform_withOwn owned)
  refine ⟨after, ?_, shown⟩
  rw [answerDelete, outcome_input asked, outcome_caller named]
  exact removed

private theorem comes_delete (shows : Shows desk ledger) (sound : ledger.Sound) :
    Comes (answerDelete claims body) desk ledger claims body .delete := by
  refine comes_input shows fun survey asked => comes_caller shows fun caller named => ?_
  cases owned : ledger.own (.str survey) caller with
  | error fault =>
    rw [← bind_pure (ofWork _)]
    exact comes_failed shows sound (.delete (.str survey) caller) rfl (Ledger.perform_not_own owned)
  | ok form =>
    cases Ledger.eq_id_of_own rfl owned
    obtain ⟨after, removed, shown⟩ := outcome_delete shows sound asked named owned
    rw [answerDelete, outcome_input asked, outcome_caller named] at removed
    exact comes_of_eq removed shown (.removed caller form named owned)

/-- What saving content does when it is not refused. -/
private theorem outcome_saveConfig {code : Value} (shows : Shows desk ledger) (sound : ledger.Sound)
    (owned : ledger.own (.str form.id) caller = .ok form)
    (fits : ¬ (form.code.isSome ∧ ¬ Copyable 4 code)) :
    ∃ after, (ofWork (Survey.saveConfig (.str form.id) code caller)).outcome desk =
        (.ok (.object [("surveyId", .str form.id)]), after) ∧
      Shows after (ledger.saved form code) ∧ (ledger.saved form code).Sound := by
  have performed := (Ledger.perform_save code owned).trans (if_neg fits)
  obtain ⟨after, saved, shown⟩ := outcome_work_ok shows sound _ rfl performed
  have kept := Ledger.sound_perform sound (.saveConfig (.str form.id) code caller)
  rw [performed] at kept
  exact ⟨after, saved, shown, kept⟩

/-- Content that is saved is recorded under the next id. -/
theorem outcome_save {code : Entries} (shows : Shows desk ledger) (sound : ledger.Sound)
    (asked : SaveRequest.ofBody body = .ok ⟨form.id, .object code⟩)
    (named : Caller.ofClaims (.object claims) = .ok caller)
    (owned : ledger.own (.str form.id) caller = .ok form) (fits : Copyable 4 (.object code)) :
    ∃ after, (answerSaveConfig claims body).outcome desk =
        (.ok (.object [("saveRes", .object [("surveyId", .str form.id)]),
          ("historyRes", .object [("_id", .str ledger.nextId)])]), after) ∧
      Shows after
        ((ledger.saved form (.object code)).recorded form.id .daily (.object code) caller) := by
  obtain ⟨between, saved, shownBetween, kept⟩ :=
    outcome_saveConfig shows sound owned fun both => both.2 fits
  obtain ⟨after, recorded, shown⟩ := outcome_work_ok shownBetween kept _ rfl
    (((ledger.saved form (.object code)).perform_record form.id .daily (.object code)
      caller).trans (if_pos fits))
  refine ⟨after, ?_, shown⟩
  rw [answerSaveConfig, outcome_input asked, outcome_caller named, outcome_bind_ok saved,
    outcome_bind_ok recorded]
  rfl

/-- Content that is nested too deeply is saved where there is none, and is not recorded. -/
theorem outcome_halfSaved {code : Entries} (shows : Shows desk ledger) (sound : ledger.Sound)
    (asked : SaveRequest.ofBody body = .ok ⟨form.id, .object code⟩)
    (named : Caller.ofClaims (.object claims) = .ok caller)
    (owned : ledger.own (.str form.id) caller = .ok form) (bare : form.code = none)
    (deep : ¬ Copyable 4 (.object code)) :
    ∃ after, (answerSaveConfig claims body).outcome desk = (.error (.ofFault .tooDeep), after) ∧
      Shows after (ledger.saved form (.object code)).unrecorded := by
  obtain ⟨between, saved, shownBetween, kept⟩ :=
    outcome_saveConfig shows sound owned fun both => by simp [bare] at both
  obtain ⟨after, failed, shown⟩ := outcome_work_error shownBetween kept _ rfl
    (((ledger.saved form (.object code)).perform_record form.id .daily (.object code)
      caller).trans (if_neg deep))
  refine ⟨after, ?_, shown⟩
  rw [answerSaveConfig, outcome_input asked, outcome_caller named, outcome_bind_ok saved]
  exact outcome_bind_error failed

/-- Content that is nested too deeply is not saved, or not recorded; what is published is left. -/
theorem outcome_deepSave {code : Entries} (shows : Shows desk ledger) (sound : ledger.Sound)
    (asked : SaveRequest.ofBody body = .ok ⟨form.id, .object code⟩)
    (named : Caller.ofClaims (.object claims) = .ok caller)
    (owned : ledger.own (.str form.id) caller = .ok form) (deep : ¬ Copyable 4 (.object code)) :
    ∃ after left, (answerSaveConfig claims body).outcome desk =
        (.error (.ofFault .tooDeep), after) ∧
      Shows after left ∧ left.publications = ledger.publications := by
  cases bare : form.code with
  | none =>
    obtain ⟨after, failed, shown⟩ := outcome_halfSaved shows sound asked named owned bare deep
    exact ⟨after, _, failed, shown, rfl⟩
  | some old =>
    obtain ⟨after, failed, shown⟩ := outcome_work_error shows sound _ rfl
      ((Ledger.perform_save _ owned).trans (if_pos ⟨bare ▸ rfl, deep⟩))
    refine ⟨after, ledger, ?_, shown, rfl⟩
    rw [answerSaveConfig, outcome_input asked, outcome_caller named]
    exact outcome_bind_error failed

private theorem comes_saveConfig (shows : Shows desk ledger) (sound : ledger.Sound) :
    Comes (answerSaveConfig claims body) desk ledger claims body .saveConfig := by
  refine comes_input shows fun ⟨id, config⟩ asked => comes_caller shows fun caller named => ?_
  obtain ⟨code, rfl⟩ := isObject_of_saveRequest asked
  cases owned : ledger.own (.str id) caller with
  | error fault =>
    exact comes_failed shows sound (.saveConfig (.str id) (.object code) caller) rfl
      (Ledger.perform_not_own owned)
  | ok form =>
    cases Ledger.eq_id_of_own rfl owned
    by_cases fits : Copyable 4 (.object code)
    · obtain ⟨after, saved, shown⟩ := outcome_save shows sound asked named owned fits
      rw [answerSaveConfig, outcome_input asked, outcome_caller named] at saved
      exact comes_of_eq saved shown (.saved code caller form asked named owned fits)
    · cases bare : form.code with
      | some old =>
        exact comes_failed shows sound _ rfl
          ((Ledger.perform_save _ owned).trans (if_pos ⟨bare ▸ rfl, fits⟩))
      | none =>
        obtain ⟨after, saved, shown⟩ := outcome_halfSaved shows sound asked named owned bare fits
        rw [answerSaveConfig, outcome_input asked, outcome_caller named] at saved
        exact comes_of_eq saved shown (.halfSaved code caller form asked named owned bare fits)

/-- What is published is recorded under the next id. -/
theorem outcome_publish {code : Value} (shows : Shows desk ledger) (sound : ledger.Sound)
    (asked : surveyOfBody body = .ok form.id)
    (named : Caller.ofClaims (.object claims) = .ok caller)
    (owned : ledger.own (.str form.id) caller = .ok form) (held : form.code = some code) :
    ∃ after, (answerPublish claims body).outcome desk =
        (.ok (form.publicationData code ledger.read.now ledger.nextId), after) ∧
      Shows after ((ledger.issued form code).recorded form.id .publish code caller) := by
  have performed : ledger.perform (.publish (.str form.id) caller) =
      (.ok (form.publishedAnswer code ledger.read.now), ledger.issued form code) := by
    rw [Ledger.perform_publish sound owned, held]
  have kept := Ledger.sound_perform sound (.publish (.str form.id) caller)
  rw [performed] at kept
  have fits : Copyable 4 code := sound.fits form (Ledger.mem_of_own owned) code held
  obtain ⟨between, published, shownBetween⟩ := outcome_work_ok shows sound _ rfl performed
  obtain ⟨after, recorded, shown⟩ := outcome_work_ok shownBetween kept _ rfl
    (((ledger.issued form code).perform_record form.id .publish code caller).trans (if_pos fits))
  refine ⟨after, ?_, shown⟩
  rw [answerPublish, outcome_input asked, outcome_caller named, outcome_bind_ok published]
  -- the answer has the entries that are read off it
  change (ofWork (Survey.addHistory (.str form.id) code
    (.str Survey.HistoryType.publish.name) caller) >>= fun recorded =>
      pure (withEntry _ "historyRes" recorded)).outcome between = _
  rw [outcome_bind_ok recorded]
  rfl

private theorem comes_publish (shows : Shows desk ledger) (sound : ledger.Sound) :
    Comes (answerPublish claims body) desk ledger claims body .publish := by
  refine comes_input shows fun id asked => comes_caller shows fun caller named => ?_
  cases owned : ledger.own (.str id) caller with
  | error fault =>
    exact comes_failed shows sound (.publish (.str id) caller) rfl (Ledger.perform_not_own owned)
  | ok form =>
    cases Ledger.eq_id_of_own rfl owned
    cases held : form.code with
    | none =>
      have performed := Ledger.perform_publish sound owned
      rw [held] at performed
      exact comes_failed shows sound _ rfl performed
    | some code =>
      obtain ⟨after, published, shown⟩ := outcome_publish shows sound asked named owned held
      rw [answerPublish, outcome_input asked, outcome_caller named] at published
      exact comes_of_eq published shown (.published code caller form asked named owned held)

private theorem comes_list (shows : Shows desk ledger) (sound : ledger.Sound) :
    Comes (answerList claims request) desk ledger claims body .list := by
  refine comes_input shows fun input _ => ?_
  refine comes_bind shows (outcome_known _ desk) fun predicate _ => ?_
  refine comes_bind shows (outcome_known _ desk) fun order _ => ?_
  refine comes_caller shows fun caller _ => ?_
  rw [← bind_pure (ofWork _)]
  exact comes_read _ rfl shows sound (.list _ _ predicate order caller) rfl rfl

private theorem comes_get (shows : Shows desk ledger) (sound : ledger.Sound) :
    Comes (answerGet claims request) desk ledger claims body .get := by
  refine comes_input shows fun survey _ => comes_caller shows fun caller _ => ?_
  have kept : (ledger.perform (.get (.str survey) caller)).2 = ledger := by
    cases owned : ledger.own (.str survey) caller with
    | error fault => exact congrArg Prod.snd (Ledger.perform_not_own owned)
    | ok form => exact congrArg Prod.snd (Ledger.perform_withOwn owned)
  rw [← bind_pure (ofWork _)]
  exact comes_read _ rfl shows sound _ rfl kept

private theorem comes_data (shows : Shows desk ledger) (sound : ledger.Sound) :
    Comes (answerData claims request) desk ledger claims body .data := by
  refine comes_input shows fun input _ => comes_caller shows fun caller _ => ?_
  exact comes_read _ rfl shows sound
    (.data (.str input.survey) caller input.hideSecrets input.page.number input.page.size) rfl rfl

/-- Handling a request comes to one of the cases, whatever it is for. -/
theorem comes_answer (shows : Shows desk ledger) (sound : ledger.Sound) (wanted : Operation)
    (claims : Entries) (body : RequestBody) (request : Request) :
    Comes (wanted.answer claims body request) desk ledger claims body wanted := by
  cases wanted with
  | add => exact comes_add shows sound
  | create => exact comes_create shows sound
  | update => exact comes_update shows sound
  | delete => exact comes_delete shows sound
  | list => exact comes_list shows sound
  | saveConfig => exact comes_saveConfig shows sound
  | get => exact comes_get shows sound
  | publish => exact comes_publish shows sound
  | data => exact comes_data shows sound

end SurveyDesk.Http
