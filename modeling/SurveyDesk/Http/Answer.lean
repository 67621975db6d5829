import SurveyDesk.Filter.Payload
import SurveyDesk.Http.Access
import SurveyDesk.Http.Body
import SurveyDesk.Http.MediaType
import SurveyDesk.Http.Query
import SurveyDesk.Http.Route
import SurveyDesk.Json.Octets
import SurveyDesk.Query.Compiler
import SurveyDesk.Survey.Banner
import SurveyDesk.Survey.History
import SurveyDesk.Survey.Responses

/-!
What each route answers. An operation looks at its request in a fixed order: the body is read,
then the bearer is checked, then the fields are looked at, and only then is the caller asked for.
-/
namespace SurveyDesk.Http

open Handling
open Session (Secrets)

/-- What a request has for a body. -/
def requestBodyOf (request : Request) : Except Failure RequestBody :=
  if request.body.isEmpty then .ok .absent
  else if !((request.header? "content-type").any declaresJson) then .ok .unread
  else match Json.readOctets request.body with
    | .ok value => .ok (.value value)
    | .error (.notJson (.malformed _ offset) _) =>
      .error (.invalid ⟨some (toString offset), .notJson⟩)
    | .error _ => .error .unreadableBody

/-! ## Operations -/

/-- The caller that claims stand for. -/
def callerOf (claims : Entries) : Handling Caller := ofOutcome (Caller.ofClaims (.object claims))

/-- The failure that a refusal to compile a filter leads to. -/
def compileFailure : Query.Refusal → Failure
  | .fault fault => .ofFault fault
  | _ => .refused .badParameters "filter is too complex"

/-- The predicate that a filter stands for; without a filter it is empty. -/
def predicateOf (filter : Option String) : Except Failure Value :=
  match filter with
  | none => .ok (.object [])
  | some text =>
    match Filter.readFilter (.str text) with
    | .ok items =>
      (Value.object <$> Query.Compiler.standard.compileFilter items).mapError compileFailure
    | .error _ => .error (.refused .badParameters "filter format is not valid")

/-- The sort specification that an order stands for; without an order it is empty. -/
def sortOf (order : Option String) : Except Failure SortSpec :=
  match order with
  | none => .ok []
  | some text =>
    match Filter.readSort (.str text) with
    | .ok requests => (Query.Compiler.standard.compileSort requests).mapError compileFailure
    | .error .tooDeep => .error .broken
    | .error _ => .error (.refused .badParameters "order format is not valid")

/-- The id of an added survey, as it is shown. -/
def addedId (added : Value) : Except Fault Value := do
  return .object [("id", ← added.entry "pageId")]

/-- Adds a survey. -/
def answerAdd (claims : Entries) (body : RequestBody) : Handling Value := do
  let input ← ofInput (AddRequest.ofBody body)
  let caller ← callerOf claims
  ofOutcome (addedId (← ofWork (Survey.add (.str input.title) (.str input.remark)
    (.str input.questionType) caller .null)))

/-- Creates a survey, anew or as a copy. -/
def answerCreate (claims : Entries) (body : RequestBody) : Handling Value := do
  let input ← ofInput (CreateRequest.ofBody body)
  let caller ← callerOf claims
  let title := Value.str input.title
  let remark := Value.str input.remark
  let added ← ofWork (match input.start with
    | .anew questionType => Survey.add title remark (.str questionType) caller .null
    | .copyOf source =>
      Survey.create title remark .null (.str Survey.copyMethod) (.str source) caller)
  ofOutcome (addedId added)

/-- Gives a survey another title and remark. -/
def answerUpdate (claims : Entries) (body : RequestBody) : Handling Value := do
  let input ← ofInput (UpdateRequest.ofBody body)
  let caller ← callerOf claims
  ofWork (Survey.update (.str input.survey) (.str input.title) (.str input.remark) caller)

/-- Removes a survey. -/
def answerDelete (claims : Entries) (body : RequestBody) : Handling Value := do
  let survey ← ofInput (surveyOfBody body)
  let caller ← callerOf claims
  ofWork (Survey.delete (.str survey) caller)

/-- Lists the caller's surveys. -/
def answerList (claims : Entries) (request : Request) : Handling Value := do
  let input ← ofInput (ListRequest.ofRequest request)
  let predicate ← ExceptT.mk (pure (predicateOf input.filter))
  let order ← ExceptT.mk (pure (sortOf input.order))
  let caller ← callerOf claims
  ofWork (Survey.list input.page.number input.page.size predicate order caller)

/-- Saves the content of a survey and records it in the history. -/
def answerSaveConfig (claims : Entries) (body : RequestBody) : Handling Value := do
  let input ← ofInput (SaveRequest.ofBody body)
  let caller ← callerOf claims
  let saved ← ofWork (Survey.saveConfig (.str input.survey) input.config caller)
  let recorded ← ofWork (Survey.addHistory (.str input.survey) input.config
    (.str Survey.HistoryType.daily.name) caller)
  return .object [("saveRes", saved), ("historyRes", recorded)]

/-- The documents of a survey. -/
def answerGet (claims : Entries) (request : Request) : Handling Value := do
  let survey ← ofInput (requiredParameter request "surveyId")
  let caller ← callerOf claims
  ofWork (Survey.get (.str survey) caller)

/-- A value with one more entry, if it is an object. -/
def withEntry (value : Value) (key : Text) (entry : Value) : Value :=
  match value with
  | .object entries => .object (Entries.put entries key entry)
  | value => value

/-- Publishes a survey and records what was published in the history. -/
def answerPublish (claims : Entries) (body : RequestBody) : Handling Value := do
  let survey ← ofInput (surveyOfBody body)
  let caller ← callerOf claims
  let published ← ofWork (Survey.publish (.str survey) caller)
  let config ← ofOutcome (published.entry "surveyConfRes")
  let recorded ← ofWork (Survey.addHistory (← ofOutcome (config.entry "pageId"))
    (← ofOutcome (config.entry "code")) (.str Survey.HistoryType.publish.name) caller)
  return withEntry published "historyRes" recorded

/-- Shows the responses to a survey. -/
def answerData (claims : Entries) (request : Request) : Handling Value := do
  let input ← ofInput (DataRequest.ofRequest request)
  let caller ← callerOf claims
  let sheet ← ofWork (Survey.data (.str input.survey) caller input.hideSecrets input.page.number
    input.page.size)
  return sheet.toValue Json.keyText

/-- What an operation answers to a bearer with these claims. -/
def Operation.answer (operation : Operation) (claims : Entries) (body : RequestBody)
    (request : Request) : Handling Value :=
  match operation with
  | .add => answerAdd claims body
  | .create => answerCreate claims body
  | .update => answerUpdate claims body
  | .delete => answerDelete claims body
  | .list => answerList claims request
  | .saveConfig => answerSaveConfig claims body
  | .get => answerGet claims request
  | .publish => answerPublish claims body
  | .data => answerData claims request

/-- The body and the claims of a request, for an operation. -/
def Operation.admitted (operation : Operation) (secrets : Secrets) (request : Request)
    (now : Int) : Except Failure (RequestBody × Entries) := do
  let body ← if operation.readsBody then requestBodyOf request else .ok .absent
  let claims ← bearerClaims secrets request now
  return (body, claims)

/-! ## Routes -/

/-- The envelope of a success. -/
def success (data : Value) : Response :=
  .showing (.object [("code", .int 200), ("data", data)]) []

/-- Gives the keeper of a refresh token a new pair of tokens. -/
def answerRefresh (secrets : Secrets) (request : Request) : Handling Response := do
  let now := (← MonadState.get).clock
  let claims ← ExceptT.mk (pure (keeperClaims secrets request now))
  let user : Value := .object [("sub", (claims.get? "sub").getD .null),
    ("username", (claims.get? "username").getD .null)]
  let pair ← ofWork (Session.issue secrets user)
  return .showing (.object [("token_type", .str "Bearer"),
      ("access_token", .str (String.ofList pair.access)),
      ("expires_in", .int (pair.accessExpires - now))])
    [("set-cookie", keepRefresh pair.refresh (now + pair.refreshExpires))]

/-- Lets go of the refresh token. -/
def answerLogout : Handling Response := do
  return .showing (.object [("ok", .bool true)])
    [("set-cookie", dropRefresh (← MonadState.get).clock)]

/-- The history of a survey, which is open to all. -/
def answerHistory (request : Request) : Handling Value := do
  let input ← ofInput (HistoryRequest.ofRequest request)
  ofWork (Survey.historyList (.str input.survey) (.str input.type))

/-- The report that the service is up. -/
def answerHealth : Response :=
  .showing (.object [("ok", .bool true),
    ("services", .list [.str "surveyManage", .str "auth"])]) []

/-- What a route answers. -/
def Route.answer (route : Route) (secrets : Secrets) (request : Request) : Handling Response :=
  match route with
  | .health => return answerHealth
  | .refresh => answerRefresh secrets request
  | .logout => answerLogout
  | .banners => success <$> ofWork (Survey.bannerData none)
  | .history => success <$> answerHistory request
  | .operation wanted => do
    let now := (← MonadState.get).clock
    let (body, claims) ← ExceptT.mk (pure (wanted.admitted secrets request now))
    success <$> wanted.answer claims body request

end SurveyDesk.Http
