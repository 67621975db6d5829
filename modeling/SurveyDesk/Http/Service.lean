import SurveyDesk.Http.Answer

/-!
The service as clients see it: it finds the route of a request, answers it, and tells browsers
which other sites may read the response.
-/
namespace SurveyDesk.Http

open Session (Secrets)

/-- What the service is set up with: the secrets of its tokens, and the sites that may read its
responses. -/
structure Setup where
  secrets : Secrets
  origins : List String
  deriving Repr

/-! ## Routing -/

/-- The response to a request for a path that no route has. A path with slashes at its end is sent
on to where it leads without them. -/
def unrouted (path : String) : Response :=
  if isSlashed path then ⟨307, .text "", []⟩ else .ofDetail 404 "Not Found"

/-- The response to a method that a route does not have. -/
def methodNotAllowed (route : Route) : Response :=
  (Response.ofDetail 405 "Method Not Allowed").withHeader "allow" route.method

/-- The outcome of a request on a route as a response. -/
def responseOf : Except Failure Response → Response
  | .ok response => response
  | .error failure => failure.response

/-- The response to a request, and the desk afterwards. -/
def respond (setup : Setup) (request : Request) : StateM Desk Response :=
  match Route.ofPath? request.path with
  | none => return unrouted request.path
  | some route =>
    if request.method = route.method then responseOf <$> (route.answer setup.secrets request).run
    else return methodNotAllowed route

/-! ## Other sites -/

/-- The header that lets a site read a response. -/
def originHeader : String := "access-control-allow-origin"

/-- The methods that other sites may use. -/
def sharedMethods : List String := ["DELETE", "GET", "HEAD", "OPTIONS", "PATCH", "POST", "PUT"]

/-- A response that a site may read if it is one of those set up. -/
def sharedWith (setup : Setup) (origin : String) (response : Response) : Response :=
  if setup.origins.contains origin then response.withHeader originHeader origin else response

/-- The response to a browser that asks whether a site may send a request with a method, and maybe
whether it may do so from another network, which no site may. -/
def preflight (setup : Setup) (origin method : String) (fromNetwork : Bool) : Response :=
  let faults := (if setup.origins.contains origin then [] else ["origin"])
    ++ (if sharedMethods.contains method then [] else ["method"])
    ++ (if fromNetwork then ["private-network"] else [])
  sharedWith setup origin
    (if faults.isEmpty then ⟨200, .text "OK", []⟩
      else ⟨400, .text ("Disallowed CORS " ++ ", ".intercalate faults), []⟩)

/-- What the service does with a request: what a site asks in advance is answered at once, and a
response that reports a breakdown is shared with no site. -/
def serve (setup : Setup) (request : Request) : StateM Desk Response :=
  match (request.header? "origin").map String.ofList with
  | none => respond setup request
  | some origin =>
    match (request.header? "access-control-request-method").filter
        fun _ => request.method = "OPTIONS" with
    | some method =>
      let fromNetwork := (request.header? "access-control-request-private-network").isSome
      return preflight setup origin (String.ofList method) fromNetwork
    | none => do
      let response ← respond setup request
      return if response.status = 500 then response else sharedWith setup origin response

end SurveyDesk.Http
