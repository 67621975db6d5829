import SurveyDesk.Http.Cookie
import SurveyDesk.Http.Failure
import SurveyDesk.Session.Claims

/-!
Who is let in: the bearer of an access token, and the keeper of a refresh token.
-/
namespace SurveyDesk.Http

open Session (Secrets Use)

/-- The token in an authorization header, which follows the word bearer and a blank. -/
def bearerToken? (header : List Char) : Option (List Char) :=
  let scheme := header.takeWhile (· ≠ ' ')
  let token := Unicode.trimmed (header.drop (scheme.length + 1))
  if scheme.map Char.toLower = "bearer".toList ∧ token ≠ [] then some token else none

/-- The claims of a token, or the failure of a request that brought it. -/
def claimsOf (secrets : Secrets) (use : Use) (denial : Denial) (now : Int) (token : List Char) :
    Except Failure Entries :=
  match Session.verify secrets use now token with
  | .ok claims => .ok claims
  | .error _ => .error (.denied denial)

/-- The claims of the bearer of a request. -/
def bearerClaims (secrets : Secrets) (request : Request) (now : Int) : Except Failure Entries :=
  match (request.header? "authorization").bind bearerToken? with
  | none => .error (.denied .noBearer)
  | some token => claimsOf secrets .access .badBearer now token

/-- The claims of the keeper of the refresh token that a request brings along. -/
def keeperClaims (secrets : Secrets) (request : Request) (now : Int) : Except Failure Entries :=
  match cookie? (request.headerValues "cookie") refreshCookie.toList with
  | none | some [] => .error (.denied .noCookie)
  | some token => claimsOf secrets .refresh .badCookie now token

end SurveyDesk.Http
