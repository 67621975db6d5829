import SurveyDesk.Proofs.Survey.Pages

/-! Which content a table of responses can be made from. Content is saved as any object, and the
table is read off what it has under `dataConf` and `dataList`, question by question. What is missing
on the way stands for nothing; what is there must be an object, then a sequence, then questions, or
no table is made at all. A field that is a list or an object stops the first row. -/
namespace SurveyDesk.Survey

open Entries (get?)

/-- Whether a question can be read. Whatever can be asked for the name of a field is one; but a list
or a text must not hold the name, and a field that is flagged must be one that can be told apart. -/
def LegibleQuestion : Value → Prop
  | .object question => ∀ field, get? question "field" = some field →
    ((get? question "isSecret").getD .null).isTruthy = true → field.isKey = true
  | .list items => .str "field" ∉ items
  | .str text => ¬ ("field" : Text).points <:+: text.points
  | _ => False

/-- Whether a value is one of the questions that content asks. -/
def IsQuestionOf (code : Entries) (question : Value) : Prop :=
  ∃ data list questions, get? code "dataConf" = some (.object data) ∧
    get? data "dataList" = some list ∧ Document.sequence? list = some questions ∧
    question ∈ questions

/-- Content that columns can be read from. -/
structure Legible (code : Entries) : Prop where
  dataConf : ∀ value, get? code "dataConf" = some value → ∃ data, value = .object data
  dataList : ∀ data, get? code "dataConf" = some (.object data) →
    ∀ list, get? data "dataList" = some list → (Document.sequence? list).isSome = true
  questions : ∀ question, IsQuestionOf code question → LegibleQuestion question

/-- Whether no field that content asks for is a list or an object. -/
def FieldsAreKeys (code : Entries) : Prop :=
  ∀ question field, IsQuestionOf code question → question.get? "field" = some field →
    field.isKey = true

variable {questions : List Value} {columns : List Column} {code config : Entries}

/-! ## Questions -/

theorem textHolds_iff (part text : List Point) :
    Store.textHolds part text = true ↔ part <:+: text := by
  induction text with
  | nil => simp [Store.textHolds]
  | cons c rest ih =>
    rw [Store.textHolds, Bool.or_eq_true, List.isPrefixOf_iff_prefix, ih, List.infix_cons_iff]

/-- A question can be read if it is a column, or none, that can be told apart if it is secret. -/
theorem legibleQuestion_iff (question : Value) :
    LegibleQuestion question ↔ ∃ column, columnOf? question = .ok column ∧
      ∀ found ∈ column, found.secret = true → found.field.isKey = true := by
  cases question with
  | object question =>
    rw [LegibleQuestion, columnOf?]
    cases get? question "field" with
    | none => simp
    | some field => simp
  | list items =>
    have holds : items.any (·.equals (.str "field")) = true ↔ .str "field" ∈ items := by
      simp [List.any_eq_true, Value.equals_text_iff]
    rw [LegibleQuestion, columnOf?, ← holds]
    split <;> simp_all
  | str text =>
    rw [LegibleQuestion, columnOf?, ← textHolds_iff]
    split <;> simp_all
  | _ => simp [LegibleQuestion, columnOf?]

theorem secretFields_answered_iff (columns : List Column) :
    (∃ secret, secretFields columns = .ok secret) ↔
      ∀ column ∈ columns, column.secret = true → column.field.isKey = true := by
  induction columns with
  | nil => simp [secretFields]
  | cons column rest ih =>
    rw [List.forall_mem_cons, ← ih, secretFields]
    cases column.secret with
    | false => simp
    | true =>
      cases column.field.isKey with
      | false => simp
      | true => simp [bind_eq_ok, pure_eq_ok]

/-- Columns and their secret fields are read exactly if every question can be. -/
theorem columns_answered_iff (questions : List Value) :
    (∃ columns secret, columnsOf questions = .ok columns ∧ secretFields columns = .ok secret) ↔
      ∀ question ∈ questions, LegibleQuestion question := by
  simp only [exists_and_left, secretFields_answered_iff]
  induction questions with
  | nil => simp [columnsOf]
  | cons question rest ih =>
    rw [List.forall_mem_cons, ← ih, legibleQuestion_iff]
    constructor
    · rintro ⟨columns, read, keys⟩
      obtain ⟨column, here, read⟩ := bind_eq_ok.mp read
      obtain ⟨others, behind, read⟩ := bind_eq_ok.mp read
      cases read
      refine ⟨⟨column, here, fun found member => keys found ?_⟩, others, behind,
        fun found member => keys found (List.mem_append_right _ member)⟩
      exact List.mem_append_left _ (Option.mem_toList.mpr member)
    · rintro ⟨⟨column, here, first⟩, others, behind, later⟩
      refine ⟨column.toList ++ others, ?_, fun found member => ?_⟩
      · rw [columnsOf, here, ok_bind, behind]
        rfl
      · rcases List.mem_append.mp member with early | late
        · exact first found (Option.mem_toList.mp early)
        · exact later found late

theorem field_of_columnOf? {question : Value} {column : Column}
    (read : columnOf? question = .ok (some column)) :
    question.get? "field" = some column.field := by
  unfold columnOf? at read
  split at read
  · split at read
    · cases read
    · rename_i named
      cases read
      exact named
  · split at read <;> cases read
  · split at read <;> cases read
  · cases read

/-- A field has a column exactly if a question names it. -/
theorem exists_column_iff (read : columnsOf questions = .ok columns) (field : Value) :
    (∃ column ∈ columns, column.field = field) ↔
      ∃ question ∈ questions, question.get? "field" = some field := by
  constructor
  · intro asked
    induction questions generalizing columns with
    | nil =>
      cases read
      simp at asked
    | cons question rest ih =>
      obtain ⟨column, here, read⟩ := bind_eq_ok.mp read
      obtain ⟨others, behind, read⟩ := bind_eq_ok.mp read
      cases read
      obtain ⟨found, member, named⟩ := asked
      rcases List.mem_append.mp member with early | late
      · rw [Option.mem_toList] at early
        cases early
        exact ⟨question, List.mem_cons_self, named ▸ field_of_columnOf? here⟩
      · obtain ⟨other, within, same⟩ := ih behind ⟨found, late, named⟩
        exact ⟨other, List.mem_cons_of_mem _ within, same⟩
  · rintro ⟨question, member, named⟩
    obtain ⟨column, within, same, -⟩ := mem_columnsOf read member named
    exact ⟨column, within, same⟩

/-! ## Content -/

/-- The questions that content asks. -/
def questionsIn (code : Entries) : Except Fault (List Value) := do
  let data ← entryOr (.object code) "dataConf" (.object [])
  questionsOf (← entryOr data "dataList" (.list []))

theorem columnsOfConfig_eq (held : config.get? "code" = some (.object code)) :
    columnsOfConfig (some (.object config)) = questionsIn code >>= columnsOf := by
  have content : (if (Value.object code).isTruthy then Value.object code else .object []) =
      .object code := by
    cases code <;> rfl
  simp only [columnsOfConfig, Option.getD_some, entryOr, held, ok_bind, content, questionsIn,
    bind_assoc]

theorem questionsOf_eq_ok {list : Value} :
    questionsOf list = .ok questions ↔ Document.sequence? list = some questions := by
  cases list <;> simp [questionsOf, Document.sequence?]

/-- Questions that are found are those that content asks. -/
theorem isQuestionOf_iff (found : questionsIn code = .ok questions) (question : Value) :
    IsQuestionOf code question ↔ question ∈ questions := by
  unfold questionsIn entryOr at found
  constructor
  · rintro ⟨data, list, listed, conf, held, sequence, member⟩
    simp only [conf, held, ok_bind, Option.getD_some, questionsOf_eq_ok, sequence] at found
    cases found
    exact member
  · intro member
    cases conf : get? code "dataConf" with
    | none =>
      simp only [conf, Option.getD_none, ok_bind, get?] at found
      cases found
      cases member
    | some value =>
      cases value with
      | object data =>
        simp only [conf, Option.getD_some, ok_bind] at found
        cases held : get? data "dataList" with
        | none =>
          simp only [held, Option.getD_none] at found
          cases found
          cases member
        | some list =>
          simp only [held, Option.getD_some, questionsOf_eq_ok] at found
          exact ⟨data, list, questions, conf, held, found, member⟩
      | _ => simp [conf] at found

/-- Questions are found exactly if what is there on the way has the shape that it must have. -/
theorem questionsIn_answered_iff (code : Entries) :
    (∃ questions, questionsIn code = .ok questions) ↔
      (∀ value, get? code "dataConf" = some value → ∃ data, value = .object data) ∧
      ∀ data, get? code "dataConf" = some (.object data) →
        ∀ list, get? data "dataList" = some list → (Document.sequence? list).isSome = true := by
  simp only [questionsIn, entryOr]
  cases conf : get? code "dataConf" with
  | none => simp [get?, questionsOf]
  | some value =>
    cases value with
    | object data =>
      cases held : get? data "dataList" with
      | none => simp [held, questionsOf]
      | some list => simp [held, questionsOf_eq_ok, Option.isSome_iff_exists]
    | _ => simp

/-- Content is legible exactly if its columns and their secret fields are read. -/
theorem legible_iff (held : config.get? "code" = some (.object code)) :
    Legible code ↔ ∃ columns secret, columnsOfConfig (some (.object config)) = .ok columns ∧
      secretFields columns = .ok secret := by
  rw [columnsOfConfig_eq held]
  constructor
  · rintro ⟨conf, list, legible⟩
    obtain ⟨questions, found⟩ := (questionsIn_answered_iff code).mpr ⟨conf, list⟩
    rw [found]
    exact (columns_answered_iff questions).mpr fun question member =>
      legible question ((isQuestionOf_iff found question).mpr member)
  · rintro ⟨columns, secret, read, secrets⟩
    obtain ⟨questions, found, read⟩ := bind_eq_ok.mp read
    obtain ⟨conf, list⟩ := (questionsIn_answered_iff code).mp ⟨questions, found⟩
    have each := (columns_answered_iff questions).mp ⟨columns, secret, read, secrets⟩
    exact ⟨conf, list, fun question asked =>
      each question ((isQuestionOf_iff found question).mp asked)⟩

/-- No field is a list or an object exactly if no column's is. -/
theorem fieldsAreKeys_iff (held : config.get? "code" = some (.object code))
    (read : columnsOfConfig (some (.object config)) = .ok columns) :
    FieldsAreKeys code ↔ ∀ column ∈ columns, column.field.isKey = true := by
  rw [columnsOfConfig_eq held] at read
  obtain ⟨questions, found, read⟩ := bind_eq_ok.mp read
  constructor
  · intro keys column member
    obtain ⟨question, asked, named⟩ := (exists_column_iff read _).mp ⟨column, member, rfl⟩
    exact keys question _ ((isQuestionOf_iff found question).mpr asked) named
  · intro keys question field asked named
    obtain ⟨column, member, rfl⟩ := (exists_column_iff read field).mpr
      ⟨question, (isQuestionOf_iff found question).mp asked, named⟩
    exact keys column member

/-! ## Rows -/

theorem answerTo_answered_iff (answers : Entries) (field : Value) :
    (∃ answer, answerTo (.object answers) field = .ok answer) ↔ field.isKey = true := by
  cases field <;> simp [answerTo, Value.isKey]

/-- A row is made exactly if no column's field is a list or an object. -/
theorem rowWith_answered_iff {response : Response} {answers : Entries}
    (answered : response.answers = .object answers) (hide : Bool) (secret : List Value)
    (columns : List Column) (row : Document) :
    (∃ made, rowWith hide secret (.object response.entries) row columns = .ok made) ↔
      ∀ column ∈ columns, column.field.isKey = true := by
  induction columns generalizing row with
  | nil => simp [rowWith]
  | cons column rest ih =>
    have entry : (Value.object response.entries).entry "data" = .ok (.object answers) :=
      congrArg Except.ok answered
    rw [List.forall_mem_cons, rowWith, entry, ok_bind, ← answerTo_answered_iff answers]
    cases answerTo (.object answers) column.field with
    | error fault => simp
    | ok answer =>
      rw [ok_bind, ih]
      simp

theorem rowOf_answered_iff {response : Response} {answers : Entries}
    (answered : response.answers = .object answers) (hide : Bool) (secret : List Value)
    (columns : List Column) :
    (∃ row, rowOf hide secret columns (.object response.entries) = .ok row) ↔
      ∀ column ∈ columns, column.field.isKey = true :=
  rowWith_answered_iff answered hide secret columns
    [(.str "_id", .str response.id), (.str "createDate", .int response.date)]

/-- The rows of a page are made exactly if there are none or no column's field is a list or an
object. -/
theorem rows_answered_iff {documents : List Value}
    (answered : ∀ document ∈ documents, ∃ (response : Response) (answers : Entries),
      response.answers = .object answers ∧ .object response.entries = document)
    (hide : Bool) (secret : List Value) (columns : List Column) :
    (∃ rows, documents.mapM (rowOf hide secret columns) = .ok rows) ↔
      documents = [] ∨ ∀ column ∈ columns, column.field.isKey = true := by
  have each : ∀ document ∈ documents, (∃ row, rowOf hide secret columns document = .ok row) ↔
      ∀ column ∈ columns, column.field.isKey = true := by
    intro document member
    obtain ⟨response, answers, object, rfl⟩ := answered document member
    exact rowOf_answered_iff object hide secret columns
  rw [mapM_answers_iff]
  constructor
  · intro made
    cases documents with
    | nil => exact .inl rfl
    | cons document rest =>
      have first : document ∈ document :: rest := List.mem_cons_self
      exact .inr ((each document first).mp (made document first))
  · rintro (rfl | keys) document member
    · cases member
    · exact (each document member).mpr keys

/-! ## Tables -/

variable {ledger : Ledger} {form : Form}

/-- The responses to a survey are always found, page by page. -/
theorem Ledger.page_answered (ledger : Ledger) (id : Text) (number size : Int) :
    ∃ page, Store.pageOf (having "pageId" (.str id)) newestFirst number size none
        (ledger.responses.map Response.document) = .ok page ∧
      ∀ document ∈ page.documents, ∃ response ∈ ledger.responses,
        response.isTo [id] = true ∧ .object response.entries = document := by
  have hit := Store.hits_decided (holds_pageId id) ledger.responses
  have numbers : newestFirst.SortsNumbers
      ((ledger.responses.filter (·.isTo [id])).map Response.document) := by
    intro path member document found
    obtain rfl := List.mem_singleton.mp member
    obtain ⟨response, -, rfl⟩ := List.mem_map.mp found
    exact ⟨response.date, keyOf_createDate response⟩
  obtain ⟨sorted, ordered⟩ := numbers.answers
  have paged : Store.pageOf (having "pageId" (.str id)) newestFirst number size none
      (ledger.responses.map Response.document) =
        .ok ⟨sorted.length, (Store.paged sorted number size).map Document.shown⟩ := by
    rw [Store.pageOf, hit, ok_bind, ordered, ok_bind, pure_eq_ok]
  refine ⟨_, paged, fun document shown => ?_⟩
  obtain ⟨found, hits, -, within⟩ := Store.pageOf_ok paged
  cases hit.symm.trans hits
  obtain ⟨_, there, rfl⟩ := List.mem_map.mp (within.subset shown)
  obtain ⟨response, kept, rfl⟩ := List.mem_map.mp there
  obtain ⟨member, named⟩ := List.mem_filter.mp kept
  exact ⟨response, member, named, (Response.shown_document response).symm⟩

/-- Where no content is shown the columns are those of content without entries. -/
theorem columnsOfConfig_shown {config : Option Entries}
    (held : (config.bind (·.get? "code")).getD (.object []) = .object code) :
    ∃ entries : Entries, entries.get? "code" = some (.object code) ∧
      columnsOfConfig (config.map .object) = columnsOfConfig (some (.object entries)) := by
  cases config with
  | none =>
    obtain rfl := Value.object.inj held
    exact ⟨[("code", .object [])], rfl, rfl⟩
  | some entries =>
    cases stored : entries.get? "code" with
    | none =>
      rw [Option.bind_some, stored, Option.getD_none, Value.object.injEq] at held
      subst held
      refine ⟨[("code", .object [])], rfl, ?_⟩
      rw [Option.map_some, columnsOfConfig, Option.getD_some, entryOr, stored]
      rfl
    | some content =>
      rw [Option.bind_some, stored, Option.getD_some] at held
      exact ⟨entries, held ▸ stored, rfl⟩

/-- A page of the table of a caller's own survey is answered exactly if the content is legible and,
unless the page is empty, no field is a list or an object. -/
theorem Ledger.sheet_answered_iff (sound : ledger.Sound)
    (owned : ledger.own (.str form.id) caller = .ok form)
    (held : ((ledger.configShown? form).bind (·.get? "code")).getD (.object []) = .object code)
    (objects : ∀ response ∈ ledger.responses, response.isTo [form.id] = true →
      ∃ answers, response.answers = .object answers) (hide : Bool) (number size : Int) :
    ∃ page, Store.pageOf (having "pageId" (.str form.id)) newestFirst number size none
        (ledger.responses.map Response.document) = .ok page ∧
      ((∃ reply, ledger.sheet (.str form.id) caller hide number size = .ok reply) ↔
        Legible code ∧ (page.documents = [] ∨ FieldsAreKeys code)) := by
  obtain ⟨page, paged, shown⟩ := ledger.page_answered form.id number size
  refine ⟨page, paged, ?_⟩
  obtain ⟨config, held, columned⟩ := columnsOfConfig_shown held
  rw [sheet_of_own sound owned, columned, paged, legible_iff held]
  have answered : ∀ document ∈ page.documents, ∃ (response : Response) (answers : Entries),
      response.answers = .object answers ∧ .object response.entries = document := by
    intro document member
    obtain ⟨response, recorded, named, same⟩ := shown document member
    obtain ⟨answers, object⟩ := objects response recorded named
    exact ⟨response, answers, object, same⟩
  constructor
  · rintro ⟨reply, replied⟩
    obtain ⟨columns, read, replied⟩ := bind_eq_ok.mp replied
    obtain ⟨secret, secrets, replied⟩ := bind_eq_ok.mp replied
    rw [ok_bind] at replied
    obtain ⟨made, rowed, -⟩ := bind_eq_ok.mp replied
    refine ⟨⟨columns, secret, read, secrets⟩, ?_⟩
    rw [fieldsAreKeys_iff held read]
    exact (rows_answered_iff answered hide secret columns).mp ⟨made, rowed⟩
  · rintro ⟨⟨columns, secret, read, secrets⟩, keys⟩
    rw [fieldsAreKeys_iff held read] at keys
    obtain ⟨made, rowed⟩ := (rows_answered_iff answered hide secret columns).mpr keys
    exact ⟨_, by rw [read, ok_bind, secrets, ok_bind, ok_bind, rowed, ok_bind, pure_eq_ok]⟩

end SurveyDesk.Survey
