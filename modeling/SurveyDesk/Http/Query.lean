import SurveyDesk.Http.Input
import SurveyDesk.Http.Parameter
import SurveyDesk.Http.Request

/-!
What the queries of requests must hold. The parameters are looked at in the order in which they
are declared, and the first fault is the one that is reported.
-/
namespace SurveyDesk.Http

/-- A parameter that must be there and must not be empty. -/
def requiredParameter (request : Request) (name : String) : Except InputFault String :=
  match request.parameter? name with
  | none => fieldFault name .missing
  | some text => if text = "" then fieldFault name .emptyText else .ok text

/-- A parameter that is a whole number, or its default. -/
def wholeParameter (request : Request) (name : String) (default : Int) :
    Except InputFault Int :=
  match request.parameter? name with
  | none => .ok default
  | some text =>
    match whole text.toList with
    | .ok number => .ok number
    | .error .notWhole => fieldFault name .notWhole
    | .error .tooLong => fieldFault name .wholeTooLong

/-- A parameter that is a flag, or its default. -/
def flagParameter (request : Request) (name : String) (default : Bool) :
    Except InputFault Bool :=
  match request.parameter? name with
  | none => .ok default
  | some text =>
    match flag? text with
    | some flag => .ok flag
    | none => fieldFault name .notFlag

/-- Which page is asked for, and how many entries a page has. -/
structure PageRequest where
  number : Int
  size : Int
  deriving DecidableEq, Repr

/-- The most entries that a page may have. -/
def pageSizeLimit : Int := 1000

/-- How many entries a page has where no usable number is given. -/
def pageSizeDefault : Int := 10

/-- The page with a number and a size, both brought into range. -/
def PageRequest.within (number size : Int) : PageRequest where
  number := max number 1
  size := if size ≤ 0 then pageSizeDefault else min size pageSizeLimit

/-- The page that a request asks for; `name` is the parameter with its number. -/
def PageRequest.ofRequest (request : Request) (name : String) : Except InputFault PageRequest := do
  let number ← wholeParameter request name 1
  let size ← wholeParameter request "pageSize" pageSizeDefault
  return .within number size

/-- A request for the surveys of a caller. -/
structure ListRequest where
  page : PageRequest
  filter : Option String
  order : Option String
  deriving Repr

/-- A parameter with a text, where an empty one counts as none. -/
def textParameter (request : Request) (name : String) : Option String :=
  (request.parameter? name).filter (· ≠ "")

/-- The request for surveys that a query makes. -/
def ListRequest.ofRequest (request : Request) : Except InputFault ListRequest := do
  let page ← PageRequest.ofRequest request "curPage"
  return ⟨page, textParameter request "filter", textParameter request "order"⟩

/-- A request for the history of a survey. -/
structure HistoryRequest where
  survey : String
  type : String
  deriving Repr

/-- The request for a history that a query makes. -/
def HistoryRequest.ofRequest (request : Request) : Except InputFault HistoryRequest := do
  let survey ← requiredParameter request "surveyId"
  let type ← requiredParameter request "historyType"
  return ⟨survey, type⟩

/-- A request for the responses to a survey. -/
structure DataRequest where
  survey : String
  hideSecrets : Bool
  page : PageRequest
  deriving Repr

/-- The request for responses that a query makes. -/
def DataRequest.ofRequest (request : Request) : Except InputFault DataRequest := do
  let survey ← requiredParameter request "surveyId"
  let hideSecrets ← flagParameter request "isShowSecret" true
  let page ← PageRequest.ofRequest request "page"
  return ⟨survey, hideSecrets, page⟩

end SurveyDesk.Http
