import SurveyDesk.Proofs.Session.Token
import SurveyDesk.Session.Claims

/-! The tokens that are given out. Both tokens of a pair say the same of the user; they differ in
what they are for, in when they expire, and in the id of the refresh token. -/
namespace SurveyDesk.Session

/-- The token of a pair for a use. -/
def Pair.of (pair : Pair) : Use → List Char
  | .access => pair.access
  | .refresh => pair.refresh

/-- What a token for a use says of itself besides its claims of the user. -/
def Use.identity (id : String) : Use → Entries
  | .access => []
  | .refresh => [("jti", .str id)]

/-- The claims that a token for a use is given out with. -/
def issuedClaims (subject username : Value) (issued : Int) (id : String) (use : Use) : Entries :=
  ("iss", .str issuer) :: ("aud", .str audience) :: ("iat", .int issued) ::
    ("exp", .int (issued + use.lifetime)) :: ("sub", subject) :: ("username", username) ::
    ("typ", .str use.name) :: use.identity id

private theorem entry_eq_ok {value found : Value} {key : String} :
    value.entry key = .ok found ↔ value.get? key = some found := by
  cases value with
  | object entries =>
    simp only [Value.entry, Value.get?]
    cases Entries.get? entries key <;> simp
  | _ => simp [Value.entry, Value.get?]

/-- A pair is given out to every user who has a subject, and says so. -/
theorem pairFor_eq_ok {secrets : Secrets} {user : Value} {issued : Int} {id : String}
    {pair : Pair} :
    pairFor secrets user issued id = .ok pair ↔
      ∃ subject, user.get? "sub" = some subject ∧
        (∀ use, pair.of use = signedToken (secrets.of use)
          (.object (issuedClaims subject ((user.get? "username").getD .null) issued id use))) ∧
        pair.accessExpires = issued + Use.access.lifetime ∧
        pair.refreshExpires = issued + Use.refresh.lifetime := by
  simp only [pairFor, claimsFor, bind_eq_ok, entry_eq_ok, pure_eq_ok, Except.ok.injEq]
  constructor
  · rintro ⟨access, ⟨subject, found, rfl⟩, refresh, ⟨again, same, rfl⟩, rfl⟩
    cases found.symm.trans same
    exact ⟨subject, found, fun use => by cases use <;> rfl, rfl, rfl⟩
  · rintro ⟨subject, found, tokens, access, refresh⟩
    refine ⟨_, ⟨subject, found, rfl⟩, _, ⟨subject, found, rfl⟩, ?_⟩
    obtain ⟨accessToken, accessExpires, refreshToken, refreshExpires⟩ := pair
    cases access
    cases refresh
    have first := tokens .access
    have second := tokens .refresh
    simp only [Pair.of] at first second
    rw [first, second]
    rfl

/-- The token for a use that a user is given at a time. -/
def issuedToken (secrets : Secrets) (subject : Text) (username : Value) (issued : Int)
    (id : String) (use : Use) : List Char :=
  signedToken (secrets.of use) (.object (issuedClaims (.str subject) username issued id use))

/-- The pair of tokens that a user is given at a time. -/
def issuedPair (secrets : Secrets) (subject : Text) (username : Value) (issued : Int)
    (id : String) : Pair :=
  ⟨issuedToken secrets subject username issued id .access, issued + 900,
    issuedToken secrets subject username issued id .refresh, issued + 2592000⟩

theorem pairFor_user {secrets : Secrets} {user : Value} {issued : Int} {id : String}
    {subject : Text} (found : user.get? "sub" = some (.str subject)) :
    pairFor secrets user issued id =
      .ok (issuedPair secrets subject ((user.get? "username").getD .null) issued id) :=
  pairFor_eq_ok.mpr ⟨_, found, fun use => by cases use <;> rfl, rfl, rfl⟩

theorem issuedClaims_distinct (subject username : Value) (issued : Int) (id : String) (use : Use) :
    (Entries.keys (issuedClaims subject username issued id use)).Nodup := by
  cases use <;> simp [issuedClaims, Use.identity]

theorem issuedClaims_settled (subject username : Value) (issued : Int) (id : String) (use : Use) :
    ∀ key ∈ Entries.keys (issuedClaims subject username issued id use),
      Json.rejoined key = key := by
  cases use <;> simp [issuedClaims, Use.identity, Entries.keys]

end SurveyDesk.Session
