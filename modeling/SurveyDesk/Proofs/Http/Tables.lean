import SurveyDesk.Proofs.Http.StoredTexts
import SurveyDesk.Proofs.Survey.Legibility

/-! When the responses to a survey can be shown to its owner. Whatever is saved as content has only
been found to be an object, and the table of responses is made from it as it is. So content can be
saved that no table can be made from, although what is missing in it would do no harm; which content
that is can be told from the content alone, and from whether there is a response on the page. -/
namespace SurveyDesk.Http

open Handling
open Survey (Form Ledger Op Shows Legible FieldsAreKeys contentSaved? contentShown? documentUnder?
  documentsIn having isResponseTo newestFirst publicationCollection responseCollection)

/-- Whether all responses to a survey are objects of answers. -/
def AnsweredByObjects (desk : Desk) (id : Text) : Prop :=
  ∀ response ∈ (documentsIn desk responseCollection).filter (isResponseTo id),
    ∃ answers, response.get? "data" = some (.object answers)

variable {setup : Setup} {desk after : Desk} {ledger left : Ledger} {form : Form} {id : Text}
  {caller : Caller} {code : Entries} {request : Request}

theorem configShown_code (ledger : Ledger) (form : Form) :
    (ledger.configShown? form).bind (·.get? "code") =
      ((ledger.publication? form.id).map Survey.Publication.code).or form.code := by
  rw [Ledger.configShown?, ← Form.code_content? form]
  cases ledger.publication? form.id with
  | some publication => rfl
  | none => cases form.content? <;> rfl

/-- The content that responses are shown by is an object; where there is none it stands for one
without entries. -/
theorem Formed.configShown (formed : Formed ledger) (member : form ∈ ledger.forms) :
    ∃ code, ((ledger.configShown? form).bind (·.get? "code")).getD (.object []) = .object code := by
  rw [configShown_code]
  cases held : ledger.publication? form.id with
  | some publication =>
    exact formed.published publication (List.mem_of_find?_eq_some held)
  | none =>
    cases stored : form.code with
    | none => exact ⟨[], rfl⟩
    | some code => exact (formed.filled form member).code code stored

/-! ## Saving and publishing -/

/-- An object is saved exactly if it is not nested too deeply. It becomes the content of the survey,
if there was any, and its publication is left. -/
theorem saved_of_asked (shows : Shows desk ledger) (sound : ledger.Sound)
    (owned : ledger.own (.str form.id) caller = .ok form)
    (asks : AsksToSave setup desk.clock request form.id caller code) :
    (¬ ((serve setup request).run desk).1.Fails ↔ Copyable 4 (.object code)) ∧
      (Copyable 4 (.object code) → contentSaved? ((serve setup request).run desk).2 form.id =
        (contentSaved? desk form.id).map fun _ => .object code) ∧
      documentUnder? ((serve setup request).run desk).2 publicationCollection form.id =
        documentUnder? desk publicationCollection form.id := by
  obtain ⟨path, method, body, claims, admitted, asked, named⟩ := asks
  have held : ledger.form? form.id = some form :=
    Keyed.find?_of_mem sound.distinct (Ledger.mem_of_own owned)
  have published {after : Desk} {left : Ledger} (shown : Shows after left)
      (kept : left.publications = ledger.publications) :
      documentUnder? after publicationCollection form.id =
        documentUnder? desk publicationCollection form.id := by
    rw [Survey.publicationUnder?_eq shown, Survey.publicationUnder?_eq shows, Ledger.publication?,
      kept]
    rfl
  by_cases fits : Copyable 4 (.object code)
  · obtain ⟨later, saved, shown⟩ := outcome_save shows sound asked named owned fits
    obtain ⟨headers, run⟩ := serve_admitted path method admitted saved
    have handled : Handled ledger claims body .saveConfig _ _ :=
      .saved code caller form asked named owned fits
    have kept := handled.sound sound
    have edited : ((ledger.saved form (.object code)).recorded form.id .daily (.object code)
        caller).form? form.id =
          some ((form.rewritten (.object code)).moved .editing ledger.now) := by
      refine (Ledger.form?_put ledger.read _ form.id).trans ?_
      rw [show ledger.read.form? form.id = some form from held]
      exact congrArg some (if_pos rfl)
    obtain ⟨_, -, plain⟩ := sound.forms form (Ledger.mem_of_own owned)
    rw [run]
    refine ⟨iff_of_true (not_fails_success (by rw [plain]; rfl) headers) fits, fun _ => ?_,
      published shown rfl⟩
    rw [Survey.contentSaved?_eq shown kept edited, Survey.contentSaved?_eq shows sound held]
    rfl
  · obtain ⟨later, left, failed, shown, kept⟩ := outcome_deepSave shows sound asked named owned fits
    obtain ⟨headers, run⟩ := serve_admitted path method admitted failed
    rw [run]
    exact ⟨iff_of_false (not_not_intro (fails_failure _ headers)) fits,
      fun both => absurd both fits, published shown kept⟩

/-- Content that is published is what responses are shown by, whether or not the owner is told. -/
theorem shown_of_published {content : Value} (shows : Shows desk ledger) (sound : ledger.Sound)
    (owned : ledger.own (.str form.id) caller = .ok form)
    (asks : AsksToPublish setup desk.clock request form.id caller)
    (saved : contentSaved? desk form.id = some content) :
    contentShown? ((serve setup request).run desk).2 form.id = some content := by
  obtain ⟨path, method, body, claims, admitted, asked, named⟩ := asks
  have held : ledger.form? form.id = some form :=
    Keyed.find?_of_mem sound.distinct (Ledger.mem_of_own owned)
  have there : form.code = some content :=
    (Survey.contentSaved?_eq shows sound held).symm.trans saved
  obtain ⟨later, published, shown⟩ := outcome_publish shows sound asked named owned there
  obtain ⟨headers, run⟩ := serve_admitted path method admitted published
  have handled : Handled ledger claims body .publish _ _ :=
    .published content caller form asked named owned there
  have kept := handled.sound sound
  let moved := form.moved .published ledger.read.now
  let left := (ledger.issued form content).recorded form.id .publish content caller
  have edited : left.form? form.id = some moved := by
    refine (Ledger.form?_put (ledger.read.read.published _) moved form.id).trans ?_
    have same : (ledger.read.read.published ⟨form.id, content, ledger.now⟩).form? form.id =
        some form := held
    rw [same]
    exact congrArg some (if_pos rfl)
  have written : left.publication? moved.id = some ⟨form.id, content, ledger.now⟩ :=
    Ledger.publication?_published_self ledger ⟨form.id, content, ledger.now⟩
  rw [run, Survey.contentShown?_eq shown kept edited, configShown_code, written]
  rfl

/-! ## Tables -/

/-- What the responses are, as they are stored, is what the ledger says. -/
theorem answers_of_documents (shows : Shows desk ledger) (answered : AnsweredByObjects desk id) :
    ∀ response ∈ ledger.responses, response.isTo [id] = true →
      ∃ answers, response.answers = .object answers := by
  intro response member named
  have stored : .object response.entries ∈
      (documentsIn desk responseCollection).filter (isResponseTo id) := by
    rw [Survey.documentsIn_responses shows]
    refine List.mem_filter.mpr ⟨List.mem_map_of_mem member, ?_⟩
    rw [Survey.isResponseTo_response]
    exact named
  obtain ⟨answers, said⟩ := answered _ stored
  exact ⟨answers, Option.some.inj said⟩

/-- At every desk that requests and responses lead to, the responses to a survey are shown to its
owner by an object, one without entries where the survey has no content. If they are objects
themselves, each page of them is found, and the table of the page is made exactly if the content is
legible and, unless the page is empty, no field is a list or an object. Any object can be saved as
content unless it is nested too deeply, which leaves the publication that is shown in its stead, if
there is one; and publishing shows the responses by what was saved. -/
theorem tables_answered_iff_legible (frequented : Frequented setup desk)
    (own : HoldsOwn desk id caller) :
    (∃ code, (contentShown? desk id).getD (.object []) = .object code ∧
      (AnsweredByObjects desk id → ∀ hide number size, ∃ page,
        desk.store.find responseCollection (having "pageId" (.str id)) newestFirst number size
          none = .ok page ∧
        ((∃ table, (Op.data (.str id) caller hide number size).answer desk = .ok table) ↔
          Legible code ∧ (page.documents = [] ∨ FieldsAreKeys code)))) ∧
    (∀ request code, AsksToSave setup desk.clock request id caller code →
      (¬ ((serve setup request).run desk).1.Fails ↔ Copyable 4 (.object code)) ∧
        (Copyable 4 (.object code) → contentSaved? ((serve setup request).run desk).2 id =
          (contentSaved? desk id).map fun _ => .object code) ∧
        documentUnder? ((serve setup request).run desk).2 publicationCollection id =
          documentUnder? desk publicationCollection id) ∧
    ∀ request content, AsksToPublish setup desk.clock request id caller →
      contentSaved? desk id = some content →
      contentShown? ((serve setup request).run desk).2 id = some content := by
  obtain ⟨ledger, shows, sound, formed⟩ := frequented.formed
  obtain ⟨form, rfl, owned⟩ := (holdsOwn_iff shows sound).mp own
  have member := Ledger.mem_of_own owned
  refine ⟨?_, fun request code => saved_of_asked shows sound owned,
    fun request content => shown_of_published shows sound owned⟩
  obtain ⟨code, held⟩ := formed.configShown member
  refine ⟨code, ?_, fun answered hide number size => ?_⟩
  · rw [Survey.contentShown?_eq shows sound (Keyed.find?_of_mem sound.distinct member), held]
  · rw [Survey.find_responses shows, Survey.answer_eq shows sound]
    exact Ledger.sheet_answered_iff sound owned held (answers_of_documents shows answered) hide
      number size

/-! ## Content that breaks the table -/

/-- Ida's survey once she has saved content. -/
private def savedForm (code : Entries) : Form :=
  (idasFirstForm.rewritten (.object code)).moved .editing 1000000

/-- The desk at which Ida has sent a request and somebody has responded to her survey. -/
private def respondedDesk (request : Request) : Desk :=
  (Op.addResponse (.str "id1") (.object [("q", .str "a")])).after
    ((serve unshared request).run idasFirstDesk).2

/-- What that desk says if Ida has saved content. -/
private def respondedLedger (code : Entries) : Ledger :=
  ⟨[savedForm code], [], [⟨"id3", .str "id1", .object [("q", .str "a")], 1000000⟩],
    [⟨"id2", .str "id1", .daily, .object code, ida, 1000000⟩], .still 1000, 3⟩

private theorem shows_respondedDesk (fits : Copyable 4 (.object code))
    (asks : AsksToSave unshared idasFirstDesk.clock request "id1" ida code) :
    Shows (respondedDesk request) (respondedLedger code) ∧ (respondedLedger code).Sound := by
  obtain ⟨path, method, body, claims, admitted, asked, named⟩ := asks
  obtain ⟨after, saved, shown⟩ :=
    outcome_save shows_idasFirstDesk sound_idasFirstLedger asked named own_idasFirstForm fits
  obtain ⟨headers, run⟩ := serve_admitted path method admitted saved
  have handled : Handled idasFirstLedger claims body .saveConfig _ _ :=
    .saved code ida idasFirstForm asked named own_idasFirstForm fits
  have kept := handled.sound sound_idasFirstLedger
  have responded := Survey.shows_after shown kept
    (.addResponse (.str "id1") (.object [("q", .str "a")]))
  have later := Ledger.sound_perform kept (.addResponse (.str "id1") (.object [("q", .str "a")]))
  have same : (Ledger.perform ((idasFirstLedger.saved idasFirstForm (.object code)).recorded
      idasFirstForm.id .daily (.object code) ida)
      (.addResponse (.str "id1") (.object [("q", .str "a")]))).2 = respondedLedger code := by
    with_unfolding_all rfl
  rw [same] at responded later
  rw [respondedDesk, run]
  exact ⟨responded, later⟩

private theorem own_respondedLedger (sound : (respondedLedger code).Sound) :
    (respondedLedger code).own (.str (savedForm code).id) ida = .ok (savedForm code) :=
  Ledger.own_of_mem sound (List.mem_singleton_self (savedForm code)) ida

/-- What is there once Ida has saved an object and somebody has responded. -/
private theorem respondedDesk_holds (fits : Copyable 4 (.object code))
    (asks : AsksToSave unshared idasFirstDesk.clock request "id1" ida code) :
    Frequented unshared (respondedDesk request) ∧ HoldsOwn (respondedDesk request) "id1" ida ∧
      contentShown? (respondedDesk request) "id1" = some (.object code) ∧
      AnsweredByObjects (respondedDesk request) "id1" := by
  obtain ⟨shows, sound⟩ := shows_respondedDesk fits asks
  refine ⟨(visited_idasFirstDesk.frequented.served request).responded _ _,
    (holdsOwn_iff shows sound).mpr ⟨savedForm code, rfl, own_respondedLedger sound⟩, ?_, ?_⟩
  · have held : (respondedLedger code).form? "id1" = some (savedForm code) := rfl
    rw [Survey.contentShown?_eq shows sound held]
    rfl
  · intro response member
    rw [Survey.documentsIn_responses shows] at member
    obtain rfl := List.mem_singleton.mp (List.mem_of_mem_filter member)
    exact ⟨_, rfl⟩

/-- Ida saves that there is nothing under `dataConf`. -/
def idasNothing : Request :=
  idas "/api/surveyManage/saveConf"
    "\x7b\"surveyId\":\"id1\",\"configData\":\x7b\"dataConf\":null\x7d\x7d"

private theorem asks_idasNothing :
    AsksToSave unshared idasFirstDesk.clock idasNothing "id1" ida [("dataConf", .null)] := by
  rw [shows_idasFirstDesk.clock]
  exact ⟨rfl, rfl, _, idasClaims, admitted_idasRequest rfl rfl rfl, rfl, rfl⟩

/-- Ida may save that there is nothing under `dataConf`, and is not shown any page of the responses
to her survey after that. -/
theorem saved_null_breaks_table :
    AsksToSave unshared idasFirstDesk.clock idasNothing "id1" ida [("dataConf", .null)] ∧
      ¬ ((serve unshared idasNothing).run idasFirstDesk).1.Fails ∧
      Frequented unshared (respondedDesk idasNothing) ∧
      HoldsOwn (respondedDesk idasNothing) "id1" ida ∧
      AnsweredByObjects (respondedDesk idasNothing) "id1" ∧
      ∀ hide number size, (Op.data (.str "id1") ida hide number size).answer
        (respondedDesk idasNothing) = .error .missingFeature := by
  have fits : Copyable 4 (.object [("dataConf", .null)]) := by decide
  obtain ⟨frequented, own, -, answered⟩ := respondedDesk_holds fits asks_idasNothing
  obtain ⟨shows, sound⟩ := shows_respondedDesk fits asks_idasNothing
  have saved := saved_of_asked shows_idasFirstDesk sound_idasFirstLedger own_idasFirstForm
    asks_idasNothing
  refine ⟨asks_idasNothing, saved.1.mpr fits, frequented, own, answered, fun hide number size => ?_⟩
  rw [Survey.answer_eq shows sound]
  exact Ledger.sheet_of_own sound (own_respondedLedger sound) hide number size

/-- Ida saves a question. -/
def idasQuestion : Request :=
  idas "/api/surveyManage/saveConf"
    ("\x7b\"surveyId\":\"id1\",\"configData\":\x7b\"dataConf\":" ++
      "\x7b\"dataList\":[\x7b\"field\":\"q\"\x7d]\x7d\x7d\x7d")

/-- The content that asks it. -/
private def questionCode : Entries :=
  [("dataConf", .object [("dataList", .list [.object [("field", .str "q")]])])]

private theorem asks_idasQuestion :
    AsksToSave unshared idasFirstDesk.clock idasQuestion "id1" ida questionCode := by
  rw [shows_idasFirstDesk.clock]
  exact ⟨rfl, rfl, _, idasClaims, admitted_idasRequest rfl rfl rfl, rfl, rfl⟩

private theorem eq_of_isQuestionOf {question : Value}
    (asked : Survey.IsQuestionOf questionCode question) :
    question = .object [("field", .str "q")] := by
  obtain ⟨data, list, questions, conf, held, sequence, member⟩ := asked
  cases conf
  cases held
  cases sequence
  exact List.mem_singleton.mp member

/-- Ida saves a question, and is shown every page of the responses to her survey after that. -/
theorem tables_answered_iff_legible_oneQuestion :
    Frequented unshared idasFirstDesk ∧ HoldsOwn idasFirstDesk "id1" ida ∧
      ¬ ((serve unshared idasQuestion).run idasFirstDesk).1.Fails ∧
      Frequented unshared (respondedDesk idasQuestion) ∧
      HoldsOwn (respondedDesk idasQuestion) "id1" ida ∧
      AnsweredByObjects (respondedDesk idasQuestion) "id1" ∧
      ∀ hide number size, ∃ table,
        (Op.data (.str "id1") ida hide number size).answer (respondedDesk idasQuestion) =
          .ok table := by
  have fits : Copyable 4 (.object questionCode) := by decide
  obtain ⟨frequented, own, shown, answered⟩ := respondedDesk_holds fits asks_idasQuestion
  have first : HoldsOwn idasFirstDesk "id1" ida :=
    (holdsOwn_iff shows_idasFirstDesk sound_idasFirstLedger).mpr
      ⟨idasFirstForm, rfl, own_idasFirstForm⟩
  obtain ⟨-, saves, -⟩ := tables_answered_iff_legible visited_idasFirstDesk.frequented first
  obtain ⟨⟨code, content, tables⟩, -⟩ := tables_answered_iff_legible frequented own
  obtain rfl : code = questionCode := by
    rw [shown] at content
    exact (Value.object.inj content).symm
  have legible : Legible questionCode := by
    refine ⟨fun value conf => ⟨_, (Option.some.inj conf).symm⟩, fun data conf list held => ?_,
      fun question asked => ?_⟩
    · cases conf
      cases held
      rfl
    · rw [eq_of_isQuestionOf asked]
      intro field named flagged
      cases flagged
  have keys : FieldsAreKeys questionCode := by
    intro question field asked named
    rw [eq_of_isQuestionOf asked] at named
    cases named
    rfl
  refine ⟨visited_idasFirstDesk.frequented, first, (saves _ _ asks_idasQuestion).1.mpr fits,
    frequented, own, answered, fun hide number size => ?_⟩
  obtain ⟨page, -, table⟩ := tables answered hide number size
  exact table.mpr ⟨legible, .inr keys⟩

end SurveyDesk.Http
