import SurveyDesk.Http.Request
import SurveyDesk.Value.Basic

/-!
Responses. What is shown of a value leaves out the entries that are internal to storage. A number
without a decimal form cannot be shown at all, nor can a text without octets.
-/
namespace SurveyDesk.Http

/-- What a response holds: a value or a text. -/
inductive Content where
  | value (value : Value)
  | text (text : String)
  deriving Repr

/-- A response. -/
structure Response where
  status : Nat
  content : Content
  headers : List Field
  deriving Repr

/-- Whether an entry is internal to storage. -/
def isInternal (key : Text) : Bool := (Text.whole "_sa").points.isPrefixOf key.points

/-- A value as it is shown. -/
def shown : Value → Value
  | .list items => .list (shownItems items)
  | .object entries => .object (shownEntries entries)
  | value => value
where
  /-- Items as they are shown. -/
  shownItems : List Value → List Value
    | [] => []
    | item :: rest => shown item :: shownItems rest
  /-- Entries as they are shown. -/
  shownEntries : List (Text × Value) → List (Text × Value)
    | [] => []
    | (key, value) :: rest =>
      if isInternal key then shownEntries rest else (key, shown value) :: shownEntries rest

/-- Whether a value can be shown: every number in it is finite, and every text is whole. -/
def isShowable : Value → Bool
  | .float number => number.isFinite
  | .str text => text.isWhole
  | .list items => itemsShowable items
  | .object entries => entriesShowable entries
  | _ => true
where
  /-- Whether items can be shown. -/
  itemsShowable : List Value → Bool
    | [] => true
    | item :: rest => isShowable item && itemsShowable rest
  /-- Whether entries can be shown, with their keys. -/
  entriesShowable : List (Text × Value) → Bool
    | [] => true
    | (key, value) :: rest => key.isWhole && isShowable value && entriesShowable rest

namespace Response

/-- A response that shows a value. -/
def ofValue (status : Nat) (value : Value) : Response := ⟨status, .value value, []⟩

/-- The response of a service that broke down. -/
def broken : Response := ⟨500, .text "Internal Server Error", []⟩

/-- A response that says why nothing is served. -/
def ofDetail (status : Nat) (detail : String) : Response :=
  ofValue status (.object [("detail", .str detail)])

/-- The response that shows a value, if it can be shown. -/
def showing (value : Value) (headers : List Field) : Response :=
  let value := shown value
  if isShowable value then ⟨200, .value value, headers⟩ else broken

/-- A response with one more header. -/
def withHeader (response : Response) (name value : String) : Response :=
  { response with headers := response.headers ++ [(name, value)] }

end Response
end SurveyDesk.Http
