import SurveyDesk.Proofs.Survey.Integrity

/-! Everything that an operation on a ledger can come to, case by case. An operation that fails
leaves all entries as they are, unless it is to add a survey with content that is nested too deeply;
one that succeeds reads, adds one entry, or changes the survey that it names. -/
namespace SurveyDesk.Survey

/-- The answer that names a new survey. -/
def pageAnswer (id : Text) : Reply := .value (.object [("pageId", .str id)])

/-- The answer that names a new response or a new history record. -/
def recordAnswer (id : Text) : Reply := .value (.object [("_id", .str id)])

/-- The answer to publishing content: the meta document of its survey as it is then, and the
content. -/
def Form.publishedAnswer (form : Form) (code : Value) (now : Int) : Reply :=
  .value (.object [
    ("surveyMetaRes", .object (form.moved .published now).metaEntries),
    ("surveyConfRes", .object [("pageId", .str form.id), ("code", code)])])

/-- Whether an operation is to add a survey. -/
def Op.Creates : Op → Prop
  | .add .. | .create .. => True
  | _ => False

/-- Whether an operation only shows what there is. -/
def Op.OnlyReads : Op → Prop
  | .list .. | .get .. | .data .. | .bannerData .. | .historyList .. => True
  | _ => False

namespace Ledger

/-- What adding a survey with content answers, and what is kept of the content. A survey whose
content is nested too deeply is added without any. -/
inductive Kept (ledger : Ledger) (calls : Nat) (code : Value) :
    Except Fault Reply → Option Value → Prop where
  | whole (fits : Copyable (calls + 2) code) :
    Kept ledger calls code (.ok (pageAnswer ledger.nextId)) (some code)
  | nothing (deep : ¬ Copyable (calls + 2) code) : Kept ledger calls code (.error .tooDeep) none

/-- An operation, what it answers, and the ledger that it leaves. A survey that is changed under an
id is changed under its own. -/
inductive Step (ledger : Ledger) : Op → Except Fault Reply → Ledger → Prop where
  | failed (op : Op) (fault : Fault) (time : Time) (idsGiven : Nat)
    (passed : time = ledger.time ∨ time = ledger.time.read)
    (more : idsGiven = ledger.idsGiven ∨ ¬ op.Creates ∧ idsGiven = ledger.idsGiven + 1) :
    Step ledger op (.error fault) { ledger with time, idsGiven }
  | read (op : Op) (reads : op.OnlyReads) (reply : Reply) : Step ledger op (.ok reply) ledger
  | waited (seconds : Int) : Step ledger (.wait seconds) (.ok .done) (ledger.later seconds)
  | paced (passing : List Int) : Step ledger (.pace passing) (.ok .done) (ledger.paced passing)
  | added (title remark questionType : Value) (caller : Caller) (code : Value)
    (kept : Kept ledger 2 (codeFor title questionType code) answer stored) :
    Step ledger (.add title remark questionType caller code) answer
      (ledger.added title remark questionType caller stored)
  | created (title remark questionType method source : Value) (caller : Caller)
    (anew : method.equals (.str copyMethod) = false)
    (kept : Kept ledger 3 (codeFor title questionType .null) answer stored) :
    Step ledger (.create title remark questionType method source caller) answer
      (ledger.added title remark questionType caller stored)
  | copied (title remark questionType method source : Value) (caller : Caller) (form : Form)
    (content : Option Content) (copies : method.equals (.str copyMethod) = true)
    (owned : ledger.own source caller = .ok form)
    (named : ledger.contentNamed source = .ok content)
    (kept : Kept ledger 3 (codeFor title form.questionType ((content.map Content.code).getD .null))
      answer stored) :
    Step ledger (.create title remark questionType method source caller) answer
      (ledger.added title remark form.questionType caller stored)
  | updated (title remark : Value) (caller : Caller) (form : Form)
    (owned : ledger.own (.str form.id) caller = .ok form) :
    Step ledger (.update (.str form.id) title remark caller)
      (.ok (surveyAnswer (.str form.id))) (ledger.read.put (form.retitled title remark ledger.now))
  | removed (id : Value) (caller : Caller) (form : Form)
    (owned : ledger.own id caller = .ok form) :
    Step ledger (.delete id caller) (.ok (surveyAnswer id))
      (ledger.read.put (form.moved .removed ledger.now))
  | saved (code : Value) (caller : Caller) (form : Form)
    (owned : ledger.own (.str form.id) caller = .ok form)
    (fits : ¬ (form.code.isSome ∧ ¬ Copyable 4 code)) :
    Step ledger (.saveConfig (.str form.id) code caller) (.ok (surveyAnswer (.str form.id)))
      (ledger.read.put ((form.rewritten code).moved .editing ledger.now))
  | published (caller : Caller) (form : Form) (content : Content)
    (owned : ledger.own (.str form.id) caller = .ok form)
    (named : ledger.contentNamed (.str form.id) = .ok (some content)) :
    Step ledger (.publish (.str form.id) caller)
      (.ok (form.publishedAnswer content.code ledger.read.now))
      ((ledger.read.read.published ⟨form.id, content.code, ledger.now⟩).put
        (form.moved .published ledger.read.now))
  | responded (id answers : Value) (form : Form) (found : ledger.seek id = .ok form)
    (fits : Copyable 2 (.object (ledger.response id answers).entries)) :
    Step ledger (.addResponse id answers) (.ok (recordAnswer ledger.nextId))
      { ledger.read with
        responses := ledger.responses ++ [ledger.response id answers]
        idsGiven := ledger.idsGiven + 1 }
  | recorded (survey code value : Value) (type : HistoryType) (caller : Caller)
    (named : HistoryType.ofValue value = .ok type)
    (fits : Copyable 2 (.object (ledger.snapshot survey type code caller).entries)) :
    Step ledger (.addHistory survey code value caller) (.ok (recordAnswer ledger.nextId))
      { ledger.read with
        snapshots := ledger.snapshots ++ [ledger.snapshot survey type code caller]
        idsGiven := ledger.idsGiven + 1 }

variable {ledger : Ledger} {op : Op}

/-- A survey that a caller may work on is there, not removed, and the caller's. -/
theorem of_own {id : Value} (owned : ledger.own id caller = .ok form) :
    form ∈ ledger.forms ∧ form.isRemoved = false ∧ form.owner.id = caller.id := by
  obtain ⟨found, mine⟩ := own_ok owned
  obtain ⟨member, present, -⟩ := seek_mem found
  exact ⟨member, present, mine⟩

private theorem step_failed (ledger : Ledger) (op : Op) (fault : Fault) :
    Step ledger op (.error fault) ledger :=
  .failed op fault ledger.time ledger.idsGiven (.inl rfl) (.inl rfl)

private theorem step_failed_late (ledger : Ledger) (op : Op) (fault : Fault) :
    Step ledger op (.error fault) ledger.read :=
  .failed op fault ledger.time.read ledger.idsGiven (.inr rfl) (.inl rfl)

private theorem step_read (reads : op.OnlyReads) (answer : Except Fault Reply) :
    Step ledger op answer ledger := by
  cases answer with
  | error fault => exact step_failed ledger op fault
  | ok reply => exact .read op reads reply

private theorem step_withOwn {id : Value} {work : Form → Except Fault Reply × Ledger}
    (made : ∀ form, ledger.own id caller = .ok form → Step ledger op (work form).1 (work form).2) :
    Step ledger op (ledger.withOwn id caller work).1 (ledger.withOwn id caller work).2 := by
  unfold withOwn
  split
  · exact made _ ‹_›
  · exact step_failed ledger op _

private theorem step_add {calls : Nat} {title remark questionType code : Value}
    (made : ∀ answer stored, Kept ledger calls (codeFor title questionType code) answer stored →
      Step ledger op answer (ledger.added title remark questionType caller stored)) :
    Step ledger op (ledger.add calls title remark questionType caller code).1
      (ledger.add calls title remark questionType caller code).2 := by
  simp only [add]
  split
  · exact made _ _ (.whole ‹_›)
  · exact made _ _ (.nothing ‹_›)

private theorem step_retitle {id : Value} (owned : ledger.own id caller = .ok form)
    (title remark : Value) :
    Step ledger (.update id title remark caller) (ledger.retitle id title remark form).1
      (ledger.retitle id title remark form).2 := by
  unfold retitle
  split
  · rename_i key
    obtain rfl := eq_id_of_own key owned
    exact .updated title remark caller form owned
  · exact step_failed_late ledger _ _

private theorem step_save {id : Value} (owned : ledger.own id caller = .ok form) (code : Value) :
    Step ledger (.saveConfig id code caller) (ledger.save id code form).1
      (ledger.save id code form).2 := by
  unfold save
  split
  · rename_i key
    obtain rfl := eq_id_of_own key owned
    split
    · exact step_failed ledger _ _
    · exact .saved code caller form owned ‹_›
  · exact step_failed ledger _ _

private theorem step_publish {id : Value} (owned : ledger.own id caller = .ok form) :
    Step ledger (.publish id caller) (ledger.publish id form).1 (ledger.publish id form).2 := by
  unfold publish
  split
  · exact step_failed ledger _ _
  · exact step_failed ledger _ _
  · rename_i content named
    split
    · rename_i key
      obtain rfl := eq_id_of_own key owned
      exact .published caller form content owned named
    · exact step_failed_late ledger _ _

/-- Every operation comes to one of these cases. -/
theorem step_perform (ledger : Ledger) (op : Op) :
    Step ledger op (ledger.perform op).1 (ledger.perform op).2 := by
  cases op with
  | add title remark questionType caller code =>
    exact step_add fun _ _ kept => .added title remark questionType caller code kept
  | create title remark questionType method source caller =>
    simp only [perform]
    split
    · rename_i copies
      refine step_withOwn fun form owned => ?_
      unfold copy
      split
      · exact step_failed ledger _ _
      · rename_i content named
        exact step_add fun _ _ kept => .copied _ _ _ _ _ _ form content copies owned named kept
    · rename_i anew
      exact step_add fun _ _ kept => .created _ _ _ _ _ _ (by simpa using anew) kept
  | update id title remark caller => exact step_withOwn fun form owned => step_retitle owned _ _
  | delete id caller => exact step_withOwn fun form owned => .removed id caller form owned
  | saveConfig id code caller => exact step_withOwn fun form owned => step_save owned _
  | get id caller => exact step_withOwn fun form _ => step_read (by trivial) _
  | publish id caller => exact step_withOwn fun form owned => step_publish owned
  | addResponse id answers =>
    simp only [perform, addResponse]
    split
    · split
      · exact .responded id answers _ ‹_› ‹_›
      · exact .failed _ _ _ _ (.inr rfl) (.inr ⟨not_false, rfl⟩)
    · exact step_failed ledger _ _
  | addHistory survey code type caller =>
    simp only [perform, addHistory]
    split
    · split
      · exact .recorded survey code type _ caller ‹_› ‹_›
      · exact .failed _ _ _ _ (.inr rfl) (.inr ⟨not_false, rfl⟩)
    · exact .failed _ _ _ _ (.inl rfl) (.inr ⟨not_false, rfl⟩)
  | wait seconds => exact .waited seconds
  | pace passing => exact .paced passing
  | list | data | bannerData | historyList => exact step_read (by trivial) _

end Ledger
end SurveyDesk.Survey
