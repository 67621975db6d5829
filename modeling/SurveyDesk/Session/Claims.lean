import SurveyDesk.Session.Token
import SurveyDesk.Survey.Desk
import SurveyDesk.Text.Numeral
import SurveyDesk.Value.Equality

/-!
The claims of tokens: what a token that is given out says, and what a token must say to be
accepted. Access tokens open the desk, and refresh tokens are exchanged for new ones; each kind has
a secret and a lifetime of its own and says which kind it is.
-/
namespace SurveyDesk.Session

/-- What a token is for. -/
inductive Use where
  | access
  | refresh
  deriving DecidableEq, Repr

/-- The word for a use. -/
def Use.name : Use → Text
  | .access => "access"
  | .refresh => "refresh"

/-- The secrets that tokens are signed with. -/
structure Secrets where
  access : List Char
  refresh : List Char
  deriving Repr

/-- The secret for a use. -/
def Secrets.of (secrets : Secrets) : Use → List Char
  | .access => secrets.access
  | .refresh => secrets.refresh

/-- Who gives tokens out. -/
def issuer : Text := "http://localhost:8000"

/-- Whom tokens are for. -/
def audience : Text := "survey-manage"

/-- How many seconds a token is valid. -/
def Use.lifetime : Use → Int
  | .access => 900
  | .refresh => 2592000

/-- The claims that a token must have, in the order in which they are looked for. -/
def requiredClaims : List String := ["exp", "iat", "aud", "iss", "sub"]

/-- The claims of a token for a user. -/
def claimsFor (user : Value) (use : Use) (issued : Int) : Except Fault Entries := do
  let subject ← user.entry "sub"
  return [
    ("iss", .str issuer), ("aud", .str audience), ("iat", .int issued),
    ("exp", .int (issued + use.lifetime)), ("sub", subject),
    ("username", (user.get? "username").getD .null), ("typ", .str use.name)]

/-- A pair of tokens that are given out together, and when they expire. -/
structure Pair where
  access : List Char
  accessExpires : Int
  refresh : List Char
  refreshExpires : Int
  deriving Repr

/-- The tokens for a user, given out at a time; the refresh token has an id of its own. -/
def pairFor (secrets : Secrets) (user : Value) (issued : Int) (id : String) :
    Except Fault Pair := do
  let access ← claimsFor user .access issued
  let refresh ← claimsFor user .refresh issued
  return {
    access := signedToken secrets.access (.object access)
    accessExpires := issued + Use.access.lifetime
    refresh := signedToken secrets.refresh (.object (refresh ++ ([("jti", .str id)] : Entries)))
    refreshExpires := issued + Use.refresh.lifetime }

/-- Gives out tokens for a user. -/
def issueAt (secrets : Secrets) (user : Value) (issued : Int) : Work Pair := do
  let serial := (← get).tokensGiven + 1
  let pair ← Work.ofOutcome (pairFor secrets user issued ("jti" ++ toString serial))
  modify fun desk => { desk with tokensGiven := serial }
  return pair

/-- Gives out tokens for a user now. -/
def issue (secrets : Secrets) (user : Value) : Work Pair := do
  issueAt secrets user (← get).clock

/-- The whole number that a claim stands for: a number without its fraction, or a numeral. -/
def wholeOf (claim : TimeClaim) : Value → Except Rejection Int
  | .bool flag => .ok (if flag then 1 else 0)
  | .int number => .ok number
  | .float number =>
    match number.wholePart? with
    | some whole => .ok whole
    | none => .error (.timeNotWhole claim)
  | .str text =>
    match (Point.chars? text.points).bind Numeral.whole? with
    | some whole => .ok whole
    | none => .error (.timeNotWhole claim)
  | _ => .error (.timeNotWhole claim)

/-- Refuses claims of which a required one is missing or null. -/
def checkRequired (claims : Entries) : List String → Except Rejection Unit
  | [] => .ok ()
  | key :: rest =>
    match claims.get? key with
    | none | some .null => .error (.claimMissing key)
    | some _ => checkRequired claims rest

/-- Refuses a claim of a time that is still to come; a claim that is missing is none. -/
def checkReached (claims : Entries) (now : Int) (claim : TimeClaim) : Except Rejection Unit :=
  match claims.get? claim.key with
  | none => .ok ()
  | some value => do
    if now < (← wholeOf claim value) then throw (.notYetValid claim)

/-- Refuses claims that have expired. -/
def checkExpiry (claims : Entries) (now : Int) : Except Rejection Unit :=
  match claims.get? TimeClaim.expires.key with
  | none => .ok ()
  | some value => do
    if (← wholeOf .expires value) ≤ now then throw .expired

/-- Refuses claims of another issuer. -/
def checkIssuer (claims : Entries) : Except Rejection Unit :=
  match claims.get? "iss" with
  | none => .error (.claimMissing "iss")
  | some (.str name) => if name = issuer then .ok () else .error .wrongIssuer
  | some _ => .error .issuerNotText

/-- The audiences that a claim names: one, or a list of them. -/
def audiencesOf : Value → Except Rejection (List Text)
  | .str name => .ok [name]
  | .list names => names.mapM fun name =>
    match name with
    | .str name => .ok name
    | _ => .error .malformedAudience
  | _ => .error .malformedAudience

/-- Refuses claims for another audience. -/
def checkAudience (claims : Entries) : Except Rejection Unit :=
  let named := (claims.get? "aud").getD .null
  if !named.isTruthy then .error (.claimMissing "aud")
  else do
    if (← audiencesOf named).contains audience then return () else throw .wrongAudience

/-- Refuses a claim that is there and is no text. -/
def checkText (claims : Entries) (key : String) (rejection : Rejection) :
    Except Rejection Unit :=
  match claims.get? key with
  | none | some (.str _) => .ok ()
  | some _ => .error rejection

/-- Refuses claims that do not hold now. -/
def checkClaims (claims : Entries) (now : Int) : Except Rejection Unit := do
  checkRequired claims requiredClaims
  checkReached claims now .issuedAt
  checkReached claims now .notBefore
  checkExpiry claims now
  checkIssuer claims
  checkAudience claims
  checkText claims "sub" .subjectNotText
  checkText claims "jti" .tokenIdNotText

/-- The claims of a token that is accepted for a use now. -/
def verify (secrets : Secrets) (use : Use) (now : Int) (token : List Char) :
    Except Rejection Entries := do
  let claims ← signedClaims (secrets.of use) token
  checkClaims claims now
  match claims.get? "typ" with
  | some (.str name) => if name = use.name then return claims else throw .wrongUse
  | _ => throw .wrongUse

end SurveyDesk.Session
