import SurveyDesk.Survey.Operations

/-!
Showing the responses to a survey. The config in force says which fields there are and which of
them are secret; answers to secret fields are masked, so that only their length and, if they are
longer than two characters, their first and last character remain.
-/
namespace SurveyDesk.Survey

open Work

/-- The code points of a masked text. -/
def maskedText : List Point → List Point
  | [] => []
  | [_] => [.char '*']
  | [_, _] => [.char '*', .char '*']
  | first :: rest => first :: List.replicate (rest.length - 1) (.char '*') ++ rest.getLast?.toList

/-- A masked answer. An answer that is not there stays so. -/
def masked : Value → Value
  | .null => .null
  | value => .str (.ofPoints (maskedText value.asText.points))

/-- A column of the table of responses. -/
structure Column where
  field : Value
  title : Value
  secret : Bool
  deriving Repr

/-- A column as it is shown. -/
def Column.toValue (column : Column) : Value :=
  .object [("field", column.field), ("title", column.title), ("isSecret", .bool column.secret)]

/-- The column that a question stands for, none if it names no field. -/
def columnOf? : Value → Except Fault (Option Column)
  | .object question =>
    match Entries.get? question "field" with
    | none => .ok none
    | some field => .ok (some ⟨field, (Entries.get? question "title").getD field,
        ((Entries.get? question "isSecret").getD .null).isTruthy⟩)
  | .list items => if items.any (·.equals (.str "field")) then .error .wrongKind else .ok none
  | .str text =>
    if Store.textHolds (Text.whole "field").points text.points then .error .wrongKind else .ok none
  | _ => .error .wrongKind

/-- The columns that several questions stand for. -/
def columnsOf : List Value → Except Fault (List Column)
  | [] => .ok []
  | question :: rest => do
    let column ← columnOf? question
    return column.toList ++ (← columnsOf rest)

/-- The questions that a value holds. The characters of a text and the keys of an object are taken
for questions too. -/
def questionsOf : Value → Except Fault (List Value)
  | .list questions => .ok questions
  | .object entries => .ok (entries.map fun entry => .str entry.1)
  | .str text => .ok (text.points.map fun point => .str (.ofPoints [point]))
  | _ => .error .wrongKind

/-- The entry of an object under a key, or a default; nothing else has entries. -/
def entryOr (value : Value) (key : Text) (default : Value) : Except Fault Value :=
  match value with
  | .object entries => .ok ((Entries.get? entries key).getD default)
  | _ => .error .missingFeature

/-- The columns that a config document asks for. -/
def columnsOfConfig (config : Option Value) : Except Fault (List Column) := do
  let code ← entryOr (config.getD (.object [])) "code" .null
  let code := if code.isTruthy then code else .object []
  let data ← entryOr code "dataConf" (.object [])
  columnsOf (← questionsOf (← entryOr data "dataList" (.list [])))

/-- The secret fields of columns. A field that is a list or an object cannot be told apart from
others. -/
def secretFields : List Column → Except Fault (List Value)
  | [] => .ok []
  | column :: rest => do
    if column.secret then
      if column.field.isKey then return column.field :: (← secretFields rest)
      else throw .wrongKind
    else secretFields rest

/-- The answer to a field, null if there is none. -/
def answerTo (answers field : Value) : Except Fault Value :=
  match answers with
  | .object entries =>
    match field with
    | .str name => .ok ((Entries.get? entries name).getD .null)
    | field => if field.isKey then .ok .null else .error .wrongKind
  | _ => .error .missingFeature

/-- A row with the answers of a response put in, column by column. -/
def rowWith (hide : Bool) (secret : List Value) (response : Value) (row : Document) :
    List Column → Except Fault Document
  | [] => .ok row
  | column :: rest => do
    let answer ← answerTo (← response.entry "data") column.field
    let isSecret := secret.any (·.alike column.field)
    let shown := if hide && isSecret then masked answer else answer
    rowWith hide secret response (Keyed.put column.field shown row) rest

/-- The row of a response. -/
def rowOf (hide : Bool) (secret : List Value) (columns : List Column) (response : Value) :
    Except Fault Document := do
  let start : Document := [(.str "_id", ← response.entry "_id"),
    (.str "createDate", ← response.entry "createDate")]
  rowWith hide secret response start columns

/-- A page of the table of responses, and the number of rows on all pages. -/
structure Sheet where
  total : Nat
  columns : List Column
  rows : List Document
  deriving Repr

/-- A page of the table as it is shown, given how the keys of its rows are spelled. -/
def Sheet.toValue (spelling : Value → Text) (sheet : Sheet) : Value :=
  .object [("total", .int sheet.total), ("listHead", .list (sheet.columns.map Column.toValue)),
    ("listBody", .list (sheet.rows.map (Document.spelled spelling)))]

/-- A page of the responses to a survey. The fields are those of the publication, or of the
config where there is none. -/
def data (id : Value) (caller : Caller) (hide : Bool) (number size : Int) : Work Sheet := do
  let _ ← findOwnMeta id caller
  let publication ← findOne publicationCollection (having "pageId" id)
  let config ← match publication with
    | some publication => pure (some publication)
    | none => findOne configCollection (having "pageId" id)
  let columns ← ofOutcome (columnsOfConfig config)
  let secret ← ofOutcome (secretFields columns)
  let page ← find responseCollection (having "pageId" id) newestFirst number size none
  let rows ← ofOutcome (page.documents.mapM (rowOf hide secret columns))
  return ⟨page.total, columns, rows⟩

end SurveyDesk.Survey
