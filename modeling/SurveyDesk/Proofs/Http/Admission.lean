import SurveyDesk.Http.Service
import SurveyDesk.Proofs.Fault

/-! What is answered to somebody without a valid access token. The body of a request is read before
anything else is looked at, so whoever sends one that cannot be read is told so. Everybody else is
refused before the fields of the request or the documents of the desk are looked at. -/
namespace SurveyDesk.Http

open Session (Secrets)

variable {setup : Setup} {secrets : Secrets} {request : Request} {now : Int} {wanted : Operation}

/-- Whether a request brings no access token that is accepted at a time. -/
def IsOutsider (secrets : Secrets) (now : Int) (request : Request) : Prop :=
  ∀ header token, request.header? "authorization" = some header →
    bearerToken? header = some token →
    ∀ claims, Session.verify secrets .access now token ≠ .ok claims

/-- Whether a request has a body that is declared to be JSON but cannot be read as such. -/
def IsUnreadable (request : Request) (fault : Json.OctetFault) : Prop :=
  request.body ≠ [] ∧
    (∃ header, request.header? "content-type" = some header ∧ declaresJson header = true) ∧
    Json.readOctets request.body = .error fault

/-- The answer to a body that cannot be read. -/
def unreadableAnswer : Json.OctetFault → Response
  | .notJson (.malformed _ offset) _ =>
    .ofValue 200 (.object [("code", .int 400),
      ("errmsg", .str (toString offset ++ ": " ++ "JSON decode error" : String))])
  | _ => .ofDetail 400 "There was an error parsing the body"

/-- Why an outsider is denied: no token was brought, or one that is not accepted. -/
def denialOf (request : Request) : Denial :=
  if ((request.header? "authorization").bind bearerToken?).isSome then .badBearer else .noBearer

/-- The header that lets the site read a response that a request comes from, if it may. -/
def originHeaders (setup : Setup) (request : Request) : List Field :=
  match (request.header? "origin").map String.ofList with
  | none => []
  | some origin => if setup.origins.contains origin then [(originHeader, origin)] else []

/-! ## The parts of a request -/

theorem requestBodyOf_unreadable {fault : Json.OctetFault}
    (unreadable : IsUnreadable request fault) :
    ∃ failure, requestBodyOf request = .error failure ∧
      failure.response = unreadableAnswer fault := by
  obtain ⟨some, ⟨header, declared, json⟩, read⟩ := unreadable
  have present : request.body.isEmpty = false := by simpa using some
  simp only [requestBodyOf, present, declared, Option.any_some, json, read, Bool.not_true,
    Bool.false_eq_true, if_false]
  cases fault with
  | notText fault => exact ⟨_, rfl, rfl⟩
  | notJson fault text => cases fault <;> exact ⟨_, rfl, rfl⟩

private theorem requestBodyOf_readable (readable : ∀ fault, ¬ IsUnreadable request fault) :
    ∃ body, requestBodyOf request = .ok body := by
  unfold requestBodyOf
  split
  · exact ⟨_, rfl⟩
  · rename_i present
    split
    · exact ⟨_, rfl⟩
    · rename_i declared
      cases read : Json.readOctets request.body with
      | ok value => exact ⟨_, rfl⟩
      | error fault =>
        have json : ∃ header, request.header? "content-type" = some header ∧
            declaresJson header = true := by simpa [Option.any_eq_true] using declared
        exact absurd ⟨by simpa using present, json, read⟩ (readable fault)

private theorem bearerClaims_outsider (outside : IsOutsider secrets now request) :
    bearerClaims secrets request now = .error (.denied (denialOf request)) := by
  unfold bearerClaims denialOf
  cases brought : (request.header? "authorization").bind bearerToken? with
  | none => rfl
  | some token =>
    obtain ⟨header, sent, read⟩ := Option.bind_eq_some_iff.mp brought
    simp only [claimsOf]
    split
    · rename_i claims accepted
      exact absurd accepted (outside header token sent read claims)
    · rfl

/-! ## The answer -/

private theorem ofPath?_path (wanted : Operation) :
    Route.ofPath? wanted.path = some (.operation wanted) := by
  cases wanted <;> rfl

/-- A request that is not admitted is answered with why, and the desk stays as it is. -/
private theorem respond_refused {desk : Desk} {failure : Failure}
    (path : request.path = wanted.path) (method : request.method = (Route.operation wanted).method)
    (refused : wanted.admitted setup.secrets request desk.clock = .error failure) :
    (respond setup request).run desk = (failure.response, desk) := by
  have answer : ((Route.operation wanted).answer setup.secrets request).run.run desk =
      (.error failure, desk) := by
    have opened {α : Type} (next : Desk → Handling α) :
        (MonadState.get >>= next).run.run desk = (next desk).run.run desk := rfl
    rw [Route.answer, opened]
    dsimp only
    rw [refused]
    rfl
  rw [respond, path, ofPath?_path]
  dsimp only
  rw [if_pos method]
  change (responseOf <$> ((Route.operation wanted).answer setup.secrets request).run).run desk = _
  rw [StateT.run_map, answer]
  rfl

/-- What is answered to a request that asks nothing in advance is passed on as it is, but for the
header that lets a site read it. -/
private theorem serve_of_respond {desk : Desk} {response : Response} (plain : response.headers = [])
    (whole : response.status ≠ 500) (asked : request.method ≠ "OPTIONS")
    (answered : (respond setup request).run desk = (response, desk)) :
    (serve setup request).run desk =
      ({ response with headers := originHeaders setup request }, desk) := by
  have filtered : (request.header? "access-control-request-method").filter
      (fun _ => request.method = "OPTIONS") = none := by
    simp [asked]
  obtain ⟨status, content, headers⟩ := response
  cases plain
  unfold serve originHeaders
  cases (request.header? "origin").map String.ofList with
  | none => exact answered
  | some origin =>
    rw [filtered, StateT.run_bind, answered]
    change ((if status = 500 then _ else sharedWith setup origin ⟨status, content, []⟩), desk) = _
    rw [if_neg whole, sharedWith]
    by_cases allowed : setup.origins.contains origin = true
    · simp only [if_pos allowed]
      rfl
    · simp only [if_neg allowed]

private theorem unreadableAnswer_plain (fault : Json.OctetFault) :
    (unreadableAnswer fault).headers = [] ∧ (unreadableAnswer fault).status ≠ 500 := by
  unfold unreadableAnswer
  split <;> exact ⟨rfl, nofun⟩

/-- An outsider is not admitted, because of the body if it cannot be read and else because of the
token. -/
private theorem admitted_outsider (wanted : Operation)
    (outside : IsOutsider secrets now request) :
    ∃ failure, wanted.admitted secrets request now = .error failure ∧
      ((wanted.readsBody = true ∧ ∃ fault, IsUnreadable request fault ∧
          failure.response = unreadableAnswer fault) ∨
        ((wanted.readsBody = true → ∀ fault, ¬ IsUnreadable request fault) ∧
          failure = .denied (denialOf request))) := by
  have refused := bearerClaims_outsider outside
  by_cases reads : wanted.readsBody = true
  · by_cases unreadable : ∃ fault, IsUnreadable request fault
    · obtain ⟨fault, unreadable⟩ := unreadable
      obtain ⟨failure, read, response⟩ := requestBodyOf_unreadable unreadable
      refine ⟨failure, ?_, .inl ⟨reads, fault, unreadable, response⟩⟩
      simp only [Operation.admitted, if_pos reads, read, error_bind]
    · have readable := not_exists.mp unreadable
      obtain ⟨body, read⟩ := requestBodyOf_readable readable
      refine ⟨_, ?_, .inr ⟨fun _ => readable, rfl⟩⟩
      simp only [Operation.admitted, if_pos reads, read, ok_bind, refused, error_bind]
  · refine ⟨_, ?_, .inr ⟨fun others => absurd others reads, rfl⟩⟩
    simp only [Operation.admitted, if_neg reads, ok_bind, refused, error_bind]

/-- Nobody gets more out of a protected route without a valid access token than that the token is
missing or invalid, or that the body of the request cannot be read. The answer is the same whatever
the desk holds, and the desk stays as it is. -/
theorem outsiders_are_refused (path : request.path = wanted.path)
    (method : request.method = (Route.operation wanted).method)
    (outside : IsOutsider setup.secrets now request) :
    ∃ response : Response,
      (∀ desk, desk.clock = now → (serve setup request).run desk =
        ({ response with headers := originHeaders setup request }, desk)) ∧
      (∀ fault, wanted.readsBody = true → IsUnreadable request fault →
        response = unreadableAnswer fault) ∧
      ((wanted.readsBody = true → ∀ fault, ¬ IsUnreadable request fault) →
        response = .ofDetail 401 (denialOf request).message) := by
  obtain ⟨failure, refused, why⟩ := admitted_outsider wanted outside
  have asked : request.method ≠ "OPTIONS" := by
    rw [method]
    cases wanted <;> decide
  -- whichever it is, the response has no headers of its own and reports no breakdown
  have answered (response : Response) (same : failure.response = response)
      (plain : response.headers = []) (whole : response.status ≠ 500) (desk : Desk)
      (time : desk.clock = now) : (serve setup request).run desk =
        ({ response with headers := originHeaders setup request }, desk) := by
    subst time same
    exact serve_of_respond plain whole asked (respond_refused path method refused)
  rcases why with ⟨reads, fault, unreadable, same⟩ | ⟨readable, rfl⟩
  · obtain ⟨plain, whole⟩ := unreadableAnswer_plain fault
    refine ⟨unreadableAnswer fault, answered _ same plain whole, ?_, ?_⟩
    · intro other _ again
      cases unreadable.2.2.symm.trans again.2.2
      rfl
    · exact fun readable => absurd unreadable (readable reads fault)
  · refine ⟨.ofDetail 401 (denialOf request).message, answered _ rfl rfl nofun, ?_, fun _ => rfl⟩
    exact fun fault reads unreadable => absurd unreadable (readable reads fault)

/-- A request without a token whose body breaks off. -/
def brokenOff (method path : String) : Request :=
  ⟨method, path, [], [("content-type", "application/json")], [0x7B]⟩

private theorem header?_brokenOff (method path name : String) :
    (brokenOff method path).header? name =
      if "content-type" = name then some "application/json".toList else none := by
  have small : "content-type".map Char.toLower = "content-type" := by decide +kernel
  have octets : (Utf8.encode "application/json".toList).map (fun octet => Char.ofNat octet.toNat) =
      "application/json".toList := by decide +kernel
  simp only [Request.header?, Request.headerValues, brokenOff, List.filter_cons, small,
    decide_eq_true_eq, List.filter_nil]
  split
  · rw [List.map_singleton, octets]
    rfl
  · rfl

private theorem brokenOff_unreadable (method path : String) :
    IsUnreadable (brokenOff method path) (.notJson (.malformed .expectedKey 1) ['\x7b']) := by
  have declared : (brokenOff method path).header? "content-type" =
      some "application/json".toList := header?_brokenOff method path "content-type"
  exact ⟨List.cons_ne_nil _ _, ⟨_, declared, by decide⟩, rfl⟩

private theorem brokenOff_anonymous (method path : String) :
    (brokenOff method path).header? "authorization" = none :=
  header?_brokenOff method path "authorization"

private theorem brokenOff_outsider (secrets : Secrets) (now : Int) (method path : String) :
    IsOutsider secrets now (brokenOff method path) := by
  intro header token sent
  cases (brokenOff_anonymous method path).symm.trans sent

/-- A setup of which no other site may read the responses. -/
def unshared : Setup := ⟨⟨"open".toList, "renew".toList⟩, []⟩

private theorem originHeaders_brokenOff (method path : String) :
    originHeaders unshared (brokenOff method path) = [] := by
  rw [originHeaders, header?_brokenOff]
  rfl

/-- Somebody without a token who sends half a body to add a survey. -/
theorem outsiders_are_refused_to_add :
    ∃ response : Response,
      (∀ desk, desk.clock = 1700000000 →
        (serve unshared (brokenOff "POST" "/api/surveyManage/add")).run desk = (response, desk)) ∧
      response = .ofValue 200 (.object [("code", .int 400),
        ("errmsg", .str "1: JSON decode error")]) := by
  have path : (brokenOff "POST" "/api/surveyManage/add").path = Operation.add.path := rfl
  have method : (brokenOff "POST" "/api/surveyManage/add").method =
      (Route.operation .add).method := rfl
  have outside := brokenOff_outsider unshared.secrets 1700000000 "POST" "/api/surveyManage/add"
  obtain ⟨response, answered, unreadable, -⟩ := outsiders_are_refused path method outside
  have told := unreadable _ rfl (brokenOff_unreadable "POST" "/api/surveyManage/add")
  subst told
  rw [originHeaders_brokenOff] at answered
  exact ⟨_, answered, rfl⟩

/-- A list is asked for without a body, so nobody looks at one that is sent along. -/
theorem list_leaves_its_body_unread :
    IsUnreadable (brokenOff "GET" "/api/surveyManage/list")
        (.notJson (.malformed .expectedKey 1) ['\x7b']) ∧
      IsOutsider unshared.secrets 1700000000 (brokenOff "GET" "/api/surveyManage/list") ∧
      (serve unshared (brokenOff "GET" "/api/surveyManage/list")).run (Desk.opened 1700000000) =
        (.ofDetail 401 "Missing bearer token", Desk.opened 1700000000) := by
  refine ⟨brokenOff_unreadable _ _, brokenOff_outsider _ _ _ _, ?_⟩
  have refused : Operation.list.admitted unshared.secrets
      (brokenOff "GET" "/api/surveyManage/list") (Desk.opened 1700000000).clock =
        .error (.denied .noBearer) := by
    rw [Operation.admitted, bearerClaims, brokenOff_anonymous]
    rfl
  have answered := respond_refused rfl rfl refused
  have served := serve_of_respond rfl (by decide) (by decide) answered
  rw [originHeaders_brokenOff] at served
  exact served

end SurveyDesk.Http
