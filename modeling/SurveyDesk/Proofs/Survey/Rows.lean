import SurveyDesk.Proofs.Store.Newest
import SurveyDesk.Proofs.Survey.Additions
import SurveyDesk.Proofs.Survey.Masking

/-! Which responses the rows of a table are of. Page by page a table has one row for each response
that was handed in to its survey and for no other, the newest first, and those of one time in the
order in which they came. A row begins with the id and the date of its response; but a column whose
field is one of these two keys is put over it, and the row shows the answer to that field there. -/
namespace SurveyDesk.Survey

/-- Whether a column is on a field. -/
def Column.isOn (field : Text) (column : Column) : Bool := column.field.alike (.str field)

/-- What a table shows of the answer to a field: no answer is null, and an answer is masked if
secrets are hidden and a column flags the field as secret. -/
def answerShown (hide : Bool) (columns : List Column) (answers : Value) (field : Text) : Value :=
  let answer := (answers.get? field).getD .null
  if hide && columns.any (fun column => column.secret && column.isOn field) then masked answer
  else answer

/-- What a row shows under a key of its own: what the response says, unless a column is on it. -/
def entryShown (hide : Bool) (columns : List Column) (answers : Value) (key : Text)
    (own : Value) : Value :=
  if columns.any (·.isOn key) then answerShown hide columns answers key else own

/-- A row is of a response: it shows the id and the date of the response. -/
structure IsRowOf (hide : Bool) (columns : List Column) (response : Response) (row : Document) :
    Prop where
  id : Keyed.get? (.str "_id") row =
    some (entryShown hide columns response.answers "_id" (.str response.id))
  date : Keyed.get? (.str "createDate") row =
    some (entryShown hide columns response.answers "createDate" (.int response.date))

/-- No column is on a key that a row has of its own. -/
def LeavesKeys (columns : List Column) : Prop :=
  ∀ column ∈ columns, column.field ≠ .str "_id" ∧ column.field ≠ .str "createDate"

/-- What a row shows of where it comes from. -/
def identity (row : Document) : Option Value × Option Value :=
  (Keyed.get? (.str "_id") row, Keyed.get? (.str "createDate") row)

/-- A page of a table. -/
def Tabled (desk : Desk) (id : Text) (caller : Caller) (hide : Bool) (size : Nat) (number : Int)
    (sheet : Sheet) : Prop :=
  (Op.data (.str id) caller hide number size).answer desk = .ok (.sheet sheet)

/-- The table of responses under some columns, page by page: every page that is shown counts them
all and has a row for each of its stretch of them, and all pages together have a row for each. -/
structure PagesOf (desk : Desk) (id : Text) (caller : Caller) (hide : Bool) (size : Nat)
    (columns : List Column) (responses : List Response) : Prop where
  page : ∀ number sheet, Tabled desk id caller hide size number sheet →
    sheet.columns = columns ∧ sheet.total = responses.length ∧
      List.Forall₂ (IsRowOf hide columns) (Store.pageItems responses number size) sheet.rows
  turned : ∀ sheets : Nat → Sheet,
    (∀ place < responses.length ⌈/⌉ size,
      Tabled desk id caller hide size (place + 1) (sheets place)) →
    List.Forall₂ (IsRowOf hide columns) responses
      ((List.range (responses.length ⌈/⌉ size)).flatMap fun place => (sheets place).rows)

/-! ## A row -/

section
variable {hide : Bool} {columns : List Column} {secret : List Value} {response : Response}
  {row made : Document}

theorem secretFields_any (read : secretFields columns = .ok secret) (field : Text) :
    secret.any (·.alike (.str field)) =
      columns.any fun column => column.secret && column.isOn field := by
  induction columns generalizing secret with
  | nil =>
    cases read
    rfl
  | cons column rest ih =>
    rw [secretFields] at read
    split at read
    · rename_i flagged
      split at read
      · obtain ⟨others, behind, read⟩ := bind_eq_ok.mp read
        cases read
        rw [List.any_cons, List.any_cons, ih behind, flagged, Bool.true_and, Column.isOn]
      · cases read
    · rename_i plain
      rw [List.any_cons, ih read, eq_false_of_ne_true plain, Bool.false_and, Bool.false_or]

theorem answerTo_text {answers answer : Value} {field : Text}
    (answered : answerTo answers (.str field) = .ok answer) :
    answer = (answers.get? field).getD .null := by
  cases answers with
  | object entries =>
    cases answered
    rfl
  | _ => cases answered

/-- A row that is filled column by column shows under a text what it showed before, unless a column
is on it. -/
theorem get?_rowWith (read : secretFields columns = .ok secret) (key : Text) :
    ∀ {rest : List Column} {row : Document},
      rowWith hide secret (.object response.entries) row rest = .ok made →
      Keyed.get? (.str key) made =
        if rest.any (·.isOn key) then some (answerShown hide columns response.answers key)
        else Keyed.get? (.str key) row
  | [], _, filled => by
    cases filled
    rfl
  | column :: rest, row, filled => by
    have data : (Value.object response.entries).entry "data" = .ok response.answers := rfl
    rw [rowWith, data, ok_bind] at filled
    obtain ⟨answer, answered, filled⟩ := bind_eq_ok.mp filled
    rw [get?_rowWith read key filled, Keyed.get?_put_text, List.any_cons]
    by_cases later : rest.any (·.isOn key)
    · rw [if_pos later, later, Bool.or_true, if_pos rfl]
    · rw [if_neg later, eq_false_of_ne_true later, Bool.or_false, Column.isOn]
      by_cases here : column.field.alike (.str key)
      · rw [Value.alike_text_iff.mp here] at answered ⊢
        rw [answerTo_text answered, secretFields_any read, answerShown]
      · rw [if_neg here, if_neg here]

theorem isRowOf_of_rowOf (read : secretFields columns = .ok secret)
    (filled : rowOf hide secret columns (.object response.entries) = .ok row) :
    IsRowOf hide columns response row := by
  have start : rowOf hide secret columns (.object response.entries) =
      rowWith hide secret (.object response.entries)
        [(.str "_id", .str response.id), (.str "createDate", .int response.date)] columns := rfl
  rw [start] at filled
  have id := get?_rowWith read "_id" filled
  have date := get?_rowWith read "createDate" filled
  refine ⟨id.trans ?_, date.trans ?_⟩ <;> rw [entryShown, apply_ite some] <;> rfl

/-- Where no column is on its keys, a row shows the id and the date of its response. -/
theorem IsRowOf.identity_eq (isRow : IsRowOf hide columns response row)
    (leaves : LeavesKeys columns) :
    identity row = (some (.str response.id), some (.int response.date)) := by
  have apart (key : Text) (absent : ∀ column ∈ columns, column.field ≠ .str key) :
      columns.any (·.isOn key) = false :=
    List.any_eq_false.mpr fun column member on => absent column member (Value.alike_text_iff.mp on)
  rw [identity, isRow.id, isRow.date, entryShown, entryShown,
    apart _ fun column member => (leaves column member).1,
    apart _ fun column member => (leaves column member).2]
  rfl

/-- Rows that leave the keys alone show the ids and the dates of their responses. -/
theorem map_identity {responses : List Response} {rows : List Document}
    (leaves : LeavesKeys columns) (are : List.Forall₂ (IsRowOf hide columns) responses rows) :
    rows.map identity =
      responses.map fun response => (some (.str response.id), some (.int response.date)) := by
  induction are with
  | nil => rfl
  | cons isRow _ ih => rw [List.map_cons, List.map_cons, isRow.identity_eq leaves, ih]

end

/-! ## Pages -/

/-- What is computed for each of several items stands for them one for one. -/
theorem forall₂_of_mapM {α β ε : Type} {compute : α → Except ε β} {items : List α}
    {answers : List β} (computed : items.mapM compute = .ok answers) :
    List.Forall₂ (fun item answer => compute item = .ok answer) items answers := by
  induction items generalizing answers with
  | nil =>
    cases computed
    exact .nil
  | cons item rest ih =>
    rw [List.mapM_cons] at computed
    obtain ⟨answer, here, computed⟩ := bind_eq_ok.mp computed
    obtain ⟨others, behind, computed⟩ := bind_eq_ok.mp computed
    cases computed
    exact .cons here (ih behind)

/-- What corresponds part by part corresponds as a whole. -/
theorem forall₂_flatMap {α β γ : Type} {relation : β → γ → Prop} {items : List α}
    {left : α → List β} {right : α → List γ}
    (each : ∀ item ∈ items, List.Forall₂ relation (left item) (right item)) :
    List.Forall₂ relation (items.flatMap left) (items.flatMap right) := by
  induction items with
  | nil => exact .nil
  | cons item rest ih =>
    obtain ⟨here, later⟩ := List.forall_mem_cons.mp each
    exact List.rel_append here (ih later)

namespace Ledger

variable {desk : Desk} {ledger : Ledger} {id : Text} {caller : Caller} {hide : Bool}

theorem dated_response (response : Response) :
    response.document.named.at? "createDate" = some (.int response.date) := by
  rw [Response.named_document, Store.at?_plain plain_createDate]
  rfl

/-- The responses to a survey, the newest first. -/
def newestTo (ledger : Ledger) (id : Text) : List Response :=
  newestOf Response.date (ledger.responses.filter (·.isTo [id]))

/-- A page of the table of a caller's own survey has the rows of a stretch of its responses. -/
theorem sheet_newest {form : Form} (sound : ledger.Sound)
    (owned : ledger.own (.str form.id) caller = .ok form) (number size : Int) :
    ledger.sheet (.str form.id) caller hide number size = (do
      let columns ← columnsOfConfig ((ledger.configShown? form).map .object)
      let secret ← secretFields columns
      let rows ← (Store.pageItems (ledger.newestTo form.id) number size).mapM fun response =>
        rowOf hide secret columns (.object response.entries)
      return .sheet ⟨(ledger.newestTo form.id).length, columns, rows⟩) := by
  rw [sheet_of_own sound owned, newestFirst,
    Store.pageOf_newest (holds_pageId form.id) dated_response, newestTo, length_newestOf]
  simp only [ok_bind, Response.shown_document, List.mapM_map]
  rfl

/-- A page that is shown has the columns of the config in force, the number of the responses to the
survey, and a row of each of a stretch of them. -/
theorem sheet_shown {number size : Int} {sheet : Sheet} (sound : ledger.Sound)
    (shown : ledger.sheet (.str id) caller hide number size = .ok (.sheet sheet)) :
    ∃ form, ledger.own (.str id) caller = .ok form ∧
      columnsOfConfig ((ledger.configShown? form).map .object) = .ok sheet.columns ∧
      sheet.total = (ledger.newestTo id).length ∧
      List.Forall₂ (IsRowOf hide sheet.columns)
        (Store.pageItems (ledger.newestTo id) number size) sheet.rows := by
  cases owned : ledger.own (.str id) caller with
  | error fault =>
    rw [sheet_of_not_own owned] at shown
    cases shown
  | ok form =>
    obtain rfl : id = form.id := Value.str.inj (eq_id_of_own rfl owned)
    rw [sheet_newest sound owned] at shown
    obtain ⟨columns, listed, shown⟩ := bind_eq_ok.mp shown
    obtain ⟨secret, flagged, shown⟩ := bind_eq_ok.mp shown
    obtain ⟨rows, filled, shown⟩ := bind_eq_ok.mp shown
    cases shown
    refine ⟨form, rfl, listed, rfl, ?_⟩
    exact (forall₂_of_mapM filled).imp fun response row made => isRowOf_of_rowOf flagged made

/-- Once one page is shown, all that are have its columns, and rows of the same responses. -/
theorem pagesOf_shown (shows : Shows desk ledger) (sound : ledger.Sound) {size : Nat}
    (positive : 0 < size) {first : Int} {sheet : Sheet}
    (shown : Tabled desk id caller hide size first sheet) :
    PagesOf desk id caller hide size sheet.columns (ledger.newestTo id) := by
  have page : ∀ number other, Tabled desk id caller hide size number other →
      other.columns = sheet.columns ∧ other.total = (ledger.newestTo id).length ∧
        List.Forall₂ (IsRowOf hide sheet.columns)
          (Store.pageItems (ledger.newestTo id) number size) other.rows := by
    intro number other there
    rw [Tabled, answer_eq shows sound] at shown there
    obtain ⟨form, owned, listed, -⟩ := sheet_shown sound shown
    obtain ⟨found, again, columns, total, rows⟩ := sheet_shown sound there
    cases owned.symm.trans again
    have same : other.columns = sheet.columns := Except.ok.inj (columns.symm.trans listed)
    exact ⟨same, total, same ▸ rows⟩
  refine ⟨page, fun sheets every => ?_⟩
  have whole := (Store.partitions_pageItems (ledger.newestTo id) positive).whole
  have parts : ∀ place ∈ List.range ((ledger.newestTo id).length ⌈/⌉ size),
      List.Forall₂ (IsRowOf hide sheet.columns)
        (Store.pageItems (ledger.newestTo id) (place + 1) size) (sheets place).rows :=
    fun place member => (page _ _ (every place (List.mem_range.mp member))).2.2
  have rows := forall₂_flatMap parts
  rwa [whole] at rows

end Ledger

/-! ## Runs -/

/-- After every run, whoever is shown a table is shown the responses that were handed in to the
survey, and no others. Page by page they are counted, and have a row each, the newest first and
those of one time in the order in which they came; and each row shows the id and the date of its
response, but for the keys that a column is on. -/
theorem rows_identify_responses {clock : Int} {ops : List Op} {id : Text} {caller : Caller}
    {hide : Bool} {size : Nat} (positive : 0 < size) {first : Int} {sheet : Sheet}
    (shown : Tabled (Op.run ops (Desk.opened clock)) id caller hide size first sheet) :
    documentsIn (Op.run ops (Desk.opened clock)) responseCollection =
      (Op.responses ops clock).map (fun response => .object response.entries) ∧
    ((Op.responses ops clock).map Response.id).Nodup ∧
    ∃ newest, NewestFirst Response.date ((Op.responses ops clock).filter (·.isTo [id])) newest ∧
      PagesOf (Op.run ops (Desk.opened clock)) id caller hide size sheet.columns newest ∧
      (LeavesKeys sheet.columns → ∀ sheets : Nat → Sheet,
        (∀ place < newest.length ⌈/⌉ size, Tabled (Op.run ops (Desk.opened clock)) id caller hide
          size (place + 1) (sheets place)) →
        ((List.range (newest.length ⌈/⌉ size)).flatMap fun place => (sheets place).rows).map
            identity =
          newest.map fun response => (some (.str response.id), some (.int response.date))) := by
  have shows := shows_run (shows_opened clock) (Ledger.sound_opened clock) ops
  have sound := Ledger.sound_run (Ledger.sound_opened clock) ops
  have collects := collects_run ops clock
  have pages := Ledger.pagesOf_shown shows sound positive shown
  refine ⟨?_, collects.responses ▸ collects.distinct.responses, _,
    collects.responses ▸ newestFirst_newestOf _ _, pages, fun leaves sheets every => ?_⟩
  · rw [documentsIn_responses shows, collects.responses]
  · exact map_identity leaves (pages.turned sheets every)

private def pia : Caller := ⟨"9", "pia"⟩

/-- Content with one question. -/
private def piasCode (field : Text) : Value :=
  .object [("dataConf", .object [("dataList", .list [.object [("field", .str field)]])])]

/-- Three respond to Pia's survey; when the second does, the clock is five seconds behind. -/
private def piasRun (field : Text) : List Op := [
  .add (.str "a") .null .null pia (piasCode field),
  .addResponse (.str "id1") (.object [(field, .str "x")]), .wait (-5),
  .addResponse (.str "id1") (.object [(field, .str "y")]), .wait 5,
  .addResponse (.str "id1") (.object [(field, .str "z")])]

private def piasFirst (field : Text) : Response :=
  ⟨"id2", .str "id1", .object [(field, .str "x")], 1000000⟩

private def piasSecond (field : Text) : Response :=
  ⟨"id3", .str "id1", .object [(field, .str "y")], 995000⟩

private def piasThird (field : Text) : Response :=
  ⟨"id4", .str "id1", .object [(field, .str "z")], 1000000⟩

private def piasSurvey (field : Text) : Form :=
  .fresh "id1" (.str "a") .null .null pia (some (piasCode field)) 1000000

private def piasLedger (field : Text) : Ledger :=
  ⟨[piasSurvey field], [], [piasFirst field, piasSecond field, piasThird field], [],
    .still 1000, 4⟩

private theorem run_piasRun (field : Text) :
    (Ledger.opened 1000).run (piasRun field) = piasLedger field := by
  cbv

private theorem newestTo_piasRun (field : Text) :
    (piasLedger field).newestTo "id1" = [piasFirst field, piasThird field, piasSecond field] := by
  cbv

/-- A page of the table, with two rows at most. -/
private def piasSheet (field : Text) (rows : List Document) : Sheet :=
  ⟨3, [⟨.str field, .str field, false⟩], rows⟩

private theorem tabled_piasPage (field : Text) (number : Int) (rows : List Document)
    (filled : (Store.pageItems [piasFirst field, piasThird field, piasSecond field] number 2).mapM
      (fun response => rowOf false [] (piasSheet field rows).columns (.object response.entries)) =
        .ok rows) :
    Tabled (Op.run (piasRun field) (Desk.opened 1000)) "id1" pia false 2 number
      (piasSheet field rows) := by
  have shows := shows_run (shows_opened 1000) (Ledger.sound_opened 1000) (piasRun field)
  have sound := Ledger.sound_run (Ledger.sound_opened 1000) (piasRun field)
  rw [run_piasRun] at shows sound
  have owned : (piasLedger field).own (.str (piasSurvey field).id) pia =
      .ok (piasSurvey field) := by
    with_unfolding_all rfl
  refine (answer_eq shows sound _).trans ((Ledger.sheet_newest sound owned number 2).trans ?_)
  have newest : (piasLedger field).newestTo (piasSurvey field).id =
      [piasFirst field, piasThird field, piasSecond field] := newestTo_piasRun field
  rw [newest]
  exact congrArg (Except.map fun rows => Reply.sheet (piasSheet field rows)) filled

private theorem responses_piasRun (field : Text) :
    Op.responses (piasRun field) 1000 = [piasFirst field, piasSecond field, piasThird field] := by
  rw [← (collects_run _ _).responses, run_piasRun]
  rfl

private def piasRow (id : Text) (date : Int) (answer : Text) : Document :=
  [(.str "_id", .str id), (.str "createDate", .int date), (.str "q", .str answer)]

/-- The pages that Pia is shown if her question is on a field of its own. -/
private def piasPage (place : Nat) : Sheet :=
  if place = 0 then piasSheet "q" [piasRow "id2" 1000000 "x", piasRow "id4" 1000000 "z"]
  else piasSheet "q" [piasRow "id3" 995000 "y"]

/-- Pia's question is on a field of its own: two pages show the ids of the three responses. -/
theorem rows_identify_responses_twoPages :
    let desk := Op.run (piasRun "q") (Desk.opened 1000)
    0 < 2 ∧ Tabled desk "id1" pia false 2 1 (piasPage 0) ∧ LeavesKeys (piasPage 0).columns ∧
      ∃ newest, NewestFirst Response.date
          ((Op.responses (piasRun "q") 1000).filter (·.isTo ["id1"])) newest ∧
        PagesOf desk "id1" pia false 2 (piasPage 0).columns newest ∧
        ((piasPage 0).rows ++ (piasPage 1).rows).map identity =
          newest.map fun response => (some (.str response.id), some (.int response.date)) := by
  intro desk
  have every : ∀ place : Nat, place < 2 →
      Tabled desk "id1" pia false 2 (place + 1) (piasPage place) := by
    intro place below
    obtain rfl | rfl : place = 0 ∨ place = 1 := by omega
    · exact tabled_piasPage "q" 1 _ rfl
    · exact tabled_piasPage "q" 2 _ rfl
  have leaves : LeavesKeys (piasPage 0).columns := by simp [LeavesKeys, piasPage, piasSheet]
  have first : Tabled desk "id1" pia false 2 1 (piasPage 0) := every 0 (by decide)
  obtain ⟨-, -, newest, order, pages, identified⟩ := rows_identify_responses (by decide) first
  have count : newest.length ⌈/⌉ 2 = 2 := by
    rw [order.perm.length_eq, responses_piasRun]
    rfl
  rw [count] at identified
  exact ⟨by decide, first, leaves, newest, order, pages, identified leaves piasPage every⟩

/-- Pia's question is on the field that holds the id of a row: the rows show what was answered. -/
theorem rows_pass_for_answers :
    ∃ sheet, Tabled (Op.run (piasRun "_id") (Desk.opened 1000)) "id1" pia false 2 1 sheet ∧
      sheet.rows.map identity =
        [(some (.str "x"), some (.int 1000000)), (some (.str "z"), some (.int 1000000))] ∧
      (Op.responses (piasRun "_id") 1000).map Response.id = ["id2", "id3", "id4"] := by
  refine ⟨_, tabled_piasPage "_id" 1 _ rfl, rfl, ?_⟩
  rw [responses_piasRun]
  rfl

end SurveyDesk.Survey
