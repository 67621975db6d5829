import SurveyDesk.Proofs.Http.Dates
import SurveyDesk.Proofs.Http.Renewal
import SurveyDesk.Proofs.Session.Acceptance

/-! How long a client keeps a refresh token. The order to keep a token names a date, and the token
says itself when it expires. The two are not the same second: the time at which the token expires is
counted from the start of 1970, and the order counts it once more from now on. -/
namespace SurveyDesk.Http

open Handling
open Session (issuedClaims issuedToken)

/-- The second until which a response orders a client to keep a pair, if it names one. -/
def keptUntil? (response : Response) : Option Int := do
  let field ← response.headers.find? (·.1 = "set-cookie")
  let date ← (Text.partsAt ';' field.2.toList).findSome? (·.dropPrefix? " expires=".toList)
  secondOf? date

/-- A response with which a client is given a token that expires at a time, and is ordered to keep
it until another. Whoever accepts the token reads in it when it expires. -/
structure KeptToken (secrets : Session.Secrets) (response : Response) (expires kept : Int) :
    Prop where
  status : response.status = 200
  token : ∃ token claims, keptPair? response = some (refreshPair token) ∧
    token = Session.signedToken secrets.refresh (.object claims) ∧
    Entries.get? claims "exp" = some (.int expires) ∧
    ∀ now read, Session.verify secrets .refresh now token = .ok read →
      read.get? "exp" = some (.int expires)
  date : keptUntil? response = some kept

variable {setup : Setup} {secrets : Session.Secrets} {desk : Desk} {request : Request}
  {response : Response} {claims : Entries} {token : List Char} {more : List Field}

/-! ## The order to keep a token -/

/-- The date in an order is the second that it was made with. -/
theorem keptUntil?_ordered (plain : ∀ c ∈ token, c ≠ ';') (expires : Int)
    (ordered : response.headers = [("set-cookie", keepRefresh token expires)] ++ more) :
    keptUntil? response = some expires := by
  have name : ∀ c ∈ (refreshPair token).toList, c ≠ ';' :=
    forall_mem_refreshPair (by decide) plain
  have date : ∀ c ∈ " expires=".toList ++ (dateText expires).toList, c ≠ ';' := by
    rintro c member rfl
    rcases List.mem_append.mp member with first | second
    · exact absurd first (by decide)
    · exact dateText_plain expires second
  have text : ∃ rest, (keepRefresh token expires).toList = (refreshPair token).toList ++ ';' ::
      (" expires=".toList ++ (dateText expires).toList ++ ';' :: rest) := by
    simp only [keepRefresh, refreshPair, String.toList_append, List.append_assoc]
    exact ⟨_, rfl⟩
  obtain ⟨rest, text⟩ := text
  have first : (refreshPair token).toList.dropPrefix? " expires=".toList = none := by
    rw [toList_refreshPair]
    rfl
  have second : (" expires=".toList ++ (dateText expires).toList).dropPrefix? " expires=".toList =
      some (dateText expires).toList :=
    List.dropPrefix?_append_of_beq _ (beq_self_eq_true _)
  rw [keptUntil?, ordered, List.singleton_append, List.find?_cons_of_pos rfl]
  simp only [Option.bind_some, Option.bind_eq_bind, text, partsAt_append name, partsAt_append date,
    List.findSome?_cons, first, second, secondOf?_dateText]

/-! ## What the keeper of a token is given -/

/-- Whoever is accepted as the keeper of a token has a subject. -/
theorem subject_of_keeper {now : Int} (accepted : keeperClaims secrets request now = .ok claims) :
    ∃ subject, claims.get? "sub" = some (.str subject) := by
  unfold keeperClaims at accepted
  split at accepted
  · cases accepted
  · cases accepted
  · unfold claimsOf at accepted
    split at accepted
    · rename_i verified
      cases accepted
      exact (Session.of_verify verified).2.subject
    · cases accepted

/-- Whoever is accepted as the keeper of a token is given a new one for thirty days, and is ordered
to keep it for as many seconds as there are from the start of 1970 until it expires. -/
theorem keptToken_of_accepted (path : Route.ofPath? request.path = some .refresh)
    (method : request.method = "POST")
    (accepted : keeperClaims setup.secrets request desk.clock = .ok claims) :
    KeptToken setup.secrets ((serve setup request).run desk).1 (desk.clock + 2592000)
      (desk.clock + (desk.clock + 2592000)) := by
  obtain ⟨subject, named⟩ := subject_of_keeper accepted
  obtain ⟨next, outcome⟩ := outcome_refresh accepted named
  obtain ⟨more, -, response⟩ := serve_refresh path method setup desk
  rw [outcome, responseOf] at response
  let username := (claims.get? "username").getD .null
  let token := issuedToken setup.secrets subject username desk.clock next .refresh
  have plain : ∀ c ∈ token, c ≠ ';' := Session.forall_mem_signedToken (by decide) (by decide) _ _
  have read : ∀ now read, Session.verify setup.secrets .refresh now token = .ok read →
      read.get? "exp" = some (.int (desk.clock + 2592000)) := by
    intro now read verified
    exact Session.expiry_of_issued (Session.of_verify verified).1
  rw [response]
  exact ⟨rfl, ⟨token, _, keptPair?_ordered plain _ rfl, rfl, rfl, read⟩,
    keptUntil?_ordered plain _ rfl⟩

/-- The cookie does not live as long as the token in it. For every clock and every request for new
tokens that is accepted, the date until which the new token is to be kept is later than the time at
which it expires by all the seconds of the clock, so that both are one second at the start of 1970
only. -/
theorem cookie_outlives_token (path : Route.ofPath? request.path = some .refresh)
    (method : request.method = "POST")
    (accepted : keeperClaims setup.secrets request desk.clock = .ok claims) :
    ∃ expires kept, KeptToken setup.secrets ((serve setup request).run desk).1 expires kept ∧
      expires = desk.clock + 2592000 ∧ kept = desk.clock + expires ∧
      (kept = expires ↔ desk.clock = 0) := by
  refine ⟨_, _, keptToken_of_accepted path method accepted, rfl, rfl, ?_⟩
  omega

/-- The request with which Ida brings along the token that she was given at a time. -/
private def idasRenewal (issued : Int) : Request :=
  renewal (refreshPair (issuedToken unshared.secrets "ida" .null issued "jti1" .refresh))

private theorem accepted_refreshClaims {issued now : Int} (small : issued.natAbs < 10000000000)
    (begun : issued ≤ now) (held : now < issued + 2592000) :
    keeperClaims unshared.secrets (idasRenewal issued) now =
      .ok (issuedClaims (.str "ida") .null issued "jti1" .refresh) := by
  have brings : Brings (idasRenewal issued)
      (refreshPair (issuedToken unshared.secrets "ida" .null issued "jti1" .refresh)) :=
    brings_renewal (Session.visible_signedToken _ _)
      (Session.forall_mem_signedToken (by decide) (by decide) _ _)
  have start : Session.IsWritable issued := Session.isWritable_of_small (by omega)
  have expires : Session.IsWritable (issued + 2592000) := Session.isWritable_of_small (by omega)
  rw [keeperClaims_of_brings brings, claimsOf,
    accepted_in_time (.inl rfl) start "jti1" .refresh (Int.le_refl issued) expires begun held,
    Json.rejoined_whole]

/-- At second 2000 Ida is given a token that expires at second 2594000, and is to keep it until
second 2596000. -/
theorem cookie_outlives_token_second2000 :
    (idasRenewal 1000).method = "POST" ∧
      keeperClaims unshared.secrets (idasRenewal 1000) 2000 =
        .ok (issuedClaims (.str "ida") .null 1000 "jti1" .refresh) ∧
      KeptToken unshared.secrets ((serve unshared (idasRenewal 1000)).run (Desk.opened 2000)).1
        2594000 2596000 := by
  have accepted := @accepted_refreshClaims 1000 2000 (by decide) (by decide) (by decide)
  obtain ⟨expires, kept, order, rfl, rfl, -⟩ :=
    @cookie_outlives_token unshared (Desk.opened 2000) _ _ rfl rfl accepted
  exact ⟨rfl, accepted, order⟩

/-- In November 2023 Ida is given a token that expires in December, and is to keep it until 2077. -/
theorem cookie_kept_for_decades :
    keeperClaims unshared.secrets (idasRenewal 1700000000) 1700000000 =
        .ok (issuedClaims (.str "ida") .null 1700000000 "jti1" .refresh) ∧
      let response := ((serve unshared (idasRenewal 1700000000)).run (Desk.opened 1700000000)).1
      KeptToken unshared.secrets response 1702592000 3402592000 ∧
      keptUntil? response ≠ some 1702592000 := by
  have accepted := @accepted_refreshClaims 1700000000 1700000000 (by decide) (by decide) (by decide)
  have order := @keptToken_of_accepted unshared (Desk.opened 1700000000) _ _ rfl rfl accepted
  refine ⟨accepted, order, ?_⟩
  rw [order.date]
  decide

end SurveyDesk.Http
