import SurveyDesk.Proofs.Http.Admission
import SurveyDesk.Proofs.Http.Cookies
import SurveyDesk.Proofs.Http.Visits

/-! How long a user stays logged in. Every refresh token that is brought along in time is exchanged
for a new pair, which says of the user what the tokens said that the user was first given. So the
caller stays the same however often tokens are renewed. A token that comes too late ends this: the
user is denied and has nothing new to keep. -/
namespace SurveyDesk.Http

open Handling
open Session (IsWritable Secrets Use issuedClaims issuedPair issuedToken pairFor_user)

/-- A response that gives a caller an access token for a quarter of an hour, which is accepted now,
and orders the client to keep a new pair. -/
structure Renews (secrets : Secrets) (now : Int) (caller : Caller) (response : Response) :
    Prop where
  status : response.status = 200
  opens : ∃ access claims,
    response.content = .value (.object [("token_type", .str "Bearer"),
      ("access_token", .str (String.ofList access)), ("expires_in", .int 900)]) ∧
    Session.verify secrets .access now access = .ok claims ∧
    Caller.ofClaims (.object claims) = .ok caller
  keeps : (keptPair? response).isSome

/-- A response that denies a user and orders the client to keep nothing. -/
structure Ends (response : Response) : Prop where
  status : response.status = 401
  told : response.content = .value (.object [("detail", .str "Invalid or expired refresh token")])
  keeps : keptPair? response = none

/-- The pair that a client may hold whose first refresh token was given out at a time, and when the
pair was set: at first that of this token, and after every renewal the one that was then set. Time
never runs back, and the desks may hold what they will. -/
inductive Chain (setup : Setup) (issued : Int) (first : List Char) : Int → String → Prop where
  | issued : Chain setup issued first issued (refreshPair first)
  | renewed {last : Int} {held kept : String} (chain : Chain setup issued first last held)
    (desk : Desk) (request : Request) (later : last ≤ desk.clock)
    (writable : IsWritable (desk.clock + 2592000)) (brings : Brings request held)
    (set : keptPair? ((serve setup request).run desk).1 = some kept) :
    Chain setup issued first desk.clock kept

variable {setup : Setup} {secrets : Secrets} {desk : Desk} {request : Request} {response : Response}
  {id pair : String} {subject given : Text} {username user : Value} {issued last : Int}
  {caller : Caller} {token : List Char} {more : List Field}

/-! ## The tokens of a user -/

/-- All tokens of a user stand for the same caller. -/
theorem ofClaims_issuedClaims (subject username : Value) (issued : Int) (id : String) (use : Use) :
    Caller.ofClaims (.object (issuedClaims subject username issued id use)) =
      Caller.ofClaims (.object [("sub", subject), ("username", username)]) := by
  cases use <;> rfl

/-- A user with a subject is somebody. -/
theorem ofClaims_subject (filled : subject ≠ "") (username : Value) :
    ∃ caller, Caller.ofClaims (.object [("sub", .str subject), ("username", username)]) =
      .ok caller := by
  have truthy : (Value.str subject).isTruthy = true := decide_eq_true filled
  exact ⟨_, if_pos truthy⟩

/-! ## What is kept -/

/-- A client keeps the pair that it is ordered to keep. -/
theorem keptPair?_ordered (plain : ∀ c ∈ token, c ≠ ';') (expires : Int)
    (ordered : response.headers = [("set-cookie", keepRefresh token expires)] ++ more) :
    keptPair? response = some (refreshPair token) := by
  rw [keptPair?, ordered, List.singleton_append, List.find?_cons_of_pos rfl,
    Option.map_some, takeWhile_keepRefresh plain]

/-- A client keeps nothing that it is not ordered to. -/
theorem keptPair?_shared (shared : ∀ field ∈ response.headers, field.1 = originHeader) :
    keptPair? response = none := by
  have others : response.headers.find? (·.1 = "set-cookie") = none := by
    rw [List.find?_eq_none]
    intro field member
    rw [shared field member]
    decide
  rw [keptPair?, others, Option.map_none]

/-! ## One renewal -/

/-- Whoever asks for new tokens is answered as the keeper of the token that the request brings. -/
theorem serve_refresh (path : Route.ofPath? request.path = some .refresh)
    (method : request.method = "POST") (setup : Setup) (desk : Desk) :
    ∃ more : List Field, (∀ field ∈ more, field.1 = originHeader) ∧
      let response := responseOf ((answerRefresh setup.secrets request).outcome desk).1
      ((serve setup request).run desk).1 =
        { response with headers := response.headers ++ more } := by
  have responded := respond_run setup request desk
  simp only [path, method, Route.method, if_true] at responded
  rcases serve_run responded with ⟨options, -⟩ | ⟨more, shared, run⟩
  · rw [method] at options
    exact absurd options (by decide)
  · exact ⟨more, shared, congrArg Prod.fst run⟩

theorem keeperClaims_of_brings
    (brings : Brings request
      (refreshPair (issuedToken secrets subject username issued id .refresh)))
    (now : Int) : keeperClaims secrets request now = claimsOf secrets .refresh .badCookie now
      (issuedToken secrets subject username issued id .refresh) := by
  generalize held : issuedToken secrets subject username issued id .refresh = token at brings ⊢
  have visible : ∀ c ∈ token, 0x21 ≤ c.toNat ∧ c.toNat < 0x7F :=
    held ▸ Session.visible_signedToken _ _
  have plain : ∀ c ∈ token, c ≠ '"' :=
    held ▸ Session.forall_mem_signedToken (by decide) (by decide) _ _
  have present : token ≠ [] := held ▸ Session.signedToken_ne_nil _ _
  rw [keeperClaims, cookie?_of_brings brings visible plain]
  cases token with
  | nil => exact absurd rfl present
  | cons => rfl

theorem outcome_issue {given : Session.Pair} {serial : Nat} (last : desk.tokensGiven + 1 = serial)
    (made : Session.pairFor secrets user desk.clock ("jti" ++ toString serial) = .ok given) :
    (Session.issue secrets user).outcome desk =
      (.ok given, { desk with tokensGiven := serial }) := by
  simp only [Session.issue, Session.issueAt, Work.outcome_bind, Work.outcome_get,
    Work.outcome_ofOutcome, last, made]
  rfl

/-- What the keeper of a token is given, which says the same of the user as the token. -/
def renewed (secrets : Secrets) (subject : Text) (username : Value) (now : Int) (id : String) :
    Response :=
  ⟨200, .value (.object [("token_type", .str "Bearer"),
      ("access_token", .str (String.ofList (issuedToken secrets subject username now id .access))),
      ("expires_in", .int 900)]),
    [("set-cookie", keepRefresh (issuedToken secrets subject username now id .refresh)
      (now + (now + 2592000)))]⟩

theorem outcome_refresh {claims : Entries}
    (known : keeperClaims secrets request desk.clock = .ok claims)
    (named : claims.get? "sub" = some (.str subject)) :
    ∃ next, ((answerRefresh secrets request).outcome desk).1 =
      .ok (renewed secrets subject ((claims.get? "username").getD .null) desk.clock next) := by
  let user : Value := .object [("sub", (claims.get? "sub").getD .null),
    ("username", (claims.get? "username").getD .null)]
  let next := "jti" ++ toString (desk.tokensGiven + 1)
  have found : user.get? "sub" = some (.str subject) := by
    show some ((claims.get? "sub").getD .null) = _
    rw [named, Option.getD_some]
  have name : (user.get? "username").getD .null = (claims.get? "username").getD .null := rfl
  have made : Session.pairFor secrets user desk.clock next =
      .ok (issuedPair secrets subject ((claims.get? "username").getD .null) desk.clock next) := by
    rw [pairFor_user found, name]
  have seconds : desk.clock + 900 - desk.clock = 900 := by omega
  refine ⟨next, ?_⟩
  simp only [answerRefresh, outcome_bind, outcome_get, outcome_known, known]
  rw [outcome_ofWork, outcome_issue rfl made]
  simp only [Except.mapError, issuedPair, seconds]
  rfl

/-! ## Renewals one after another -/

/-- A pair whose token was given out at a time to a user with this name and a subject that comes
back as this one. -/
structure Current (secrets : Secrets) (subject : Text) (username : Value) (issued last : Int)
    (pair : String) : Prop where
  token : ∃ given id, Json.rejoined given = subject ∧
    pair = refreshPair (issuedToken secrets given username last id .refresh)
  since : issued ≤ last
  expires : IsWritable (last + 2592000)

variable (named : username = .null ∨ ∃ text : String, username = .str text)
  (start : IsWritable issued)

include named start in
theorem verify_current (id : String) (use : Use) (since : issued ≤ last)
    (expires : IsWritable (last + 2592000)) (now : Int) :
    Session.verify secrets use now (issuedToken secrets given username last id use) =
      Session.answerAt now last (last + use.lifetime)
        (issuedClaims (.str (Json.rejoined given)) username last id use) := by
  have lifetime : 0 ≤ use.lifetime ∧ use.lifetime ≤ 2592000 := by cases use <;> decide
  exact Session.verify_issued secrets id use now named
    (Session.isWritable_between start expires since (by omega))
    (Session.isWritable_between start expires (by omega) (by omega))

include named start in
theorem accepted_in_time (id : String) (use : Use) (since : issued ≤ last)
    (expires : IsWritable (last + 2592000)) {now : Int} (begun : last ≤ now)
    (held : now < last + use.lifetime) :
    Session.verify secrets use now (issuedToken secrets given username last id use) =
      .ok (issuedClaims (.str (Json.rejoined given)) username last id use) := by
  rw [verify_current named start id use since expires, Session.answerAt,
    if_neg (Int.not_lt.mpr begun), if_neg (Int.not_le.mpr held)]

include named start in
/-- A pair that is brought along in time is exchanged for one of the same user. -/
theorem renews_in_time
    (stands : Caller.ofClaims (.object [("sub", .str subject), ("username", username)]) =
      .ok caller)
    (current : Current setup.secrets subject username issued last pair)
    (brings : Brings request pair) (later : last ≤ desk.clock)
    (writable : IsWritable (desk.clock + 2592000)) (inTime : desk.clock - last < 2592000) :
    let response := ((serve setup request).run desk).1
    Renews setup.secrets desk.clock caller response ∧
      ∃ next, keptPair? response = some next ∧
        Current setup.secrets subject username issued desk.clock next := by
  obtain ⟨⟨given, id, rfl, rfl⟩, since, expires⟩ := current
  let subject := Json.rejoined given
  have again : issued ≤ desk.clock := Int.le_trans since later
  have accepted : keeperClaims setup.secrets request desk.clock =
      .ok (issuedClaims (.str subject) username last id .refresh) := by
    rw [keeperClaims_of_brings brings, claimsOf,
      accepted_in_time named start id .refresh since expires later
        (Int.lt_add_of_sub_left_lt inTime)]
  obtain ⟨next, outcome⟩ := outcome_refresh accepted rfl
  have opens : Session.verify setup.secrets .access desk.clock
      (issuedToken setup.secrets subject username desk.clock next .access) =
        .ok (issuedClaims (.str subject) username desk.clock next .access) := by
    rw [accepted_in_time named start next .access again writable (Int.le_refl desk.clock)
      (Int.lt_add_of_pos_right desk.clock (by decide)), Json.rejoined_rejoined]
  have plain : ∀ c ∈ issuedToken setup.secrets subject username desk.clock next .refresh, c ≠ ';' :=
    Session.forall_mem_signedToken (by decide) (by decide) _ _
  obtain ⟨more, -, response⟩ := serve_refresh brings.path brings.method setup desk
  rw [outcome, responseOf] at response
  rw [response]
  let answer := renewed setup.secrets subject username desk.clock next
  have kept : keptPair? { answer with headers := answer.headers ++ more } = some (refreshPair
      (issuedToken setup.secrets subject username desk.clock next .refresh)) :=
    keptPair?_ordered plain _ rfl
  have same := (ofClaims_issuedClaims (.str subject) username desk.clock next .access).trans stands
  exact ⟨⟨rfl, ⟨_, _, rfl, opens, same⟩, Option.isSome_of_eq_some kept⟩, _, kept,
    ⟨subject, next, Json.rejoined_rejoined given, rfl⟩, again, writable⟩

include named start in
/-- A pair that is brought along too late is exchanged for nothing. -/
theorem ends_too_late (current : Current setup.secrets subject username issued last pair)
    (brings : Brings request pair) (tooLate : 2592000 ≤ desk.clock - last) :
    Ends ((serve setup request).run desk).1 := by
  obtain ⟨⟨given, id, -, rfl⟩, since, expires⟩ := current
  have expired : keeperClaims setup.secrets request desk.clock = .error (.denied .badCookie) := by
    have begun : ¬ desk.clock < last := by omega
    have past : last + Use.refresh.lifetime ≤ desk.clock := Int.add_le_of_le_sub_left tooLate
    rw [keeperClaims_of_brings brings, claimsOf,
      verify_current named start id .refresh since expires, Session.answerAt, if_neg begun,
      if_pos past]
  have denied : ((answerRefresh setup.secrets request).outcome desk).1 =
      .error (.denied .badCookie) := by
    simp only [answerRefresh, outcome_bind, outcome_get, outcome_known, expired]
  obtain ⟨more, shared, response⟩ := serve_refresh brings.path brings.method setup desk
  rw [denied, responseOf] at response
  rw [response]
  exact ⟨rfl, rfl, keptPair?_shared shared⟩

include named start in
/-- Whatever a client may hold was given out to the user whose token was the first. -/
theorem Chain.current
    (stands : Caller.ofClaims (.object [("sub", .str subject), ("username", username)]) =
      .ok caller)
    (expires : IsWritable (issued + 2592000))
    (back : Json.rejoined given = subject)
    (chain : Chain setup issued (issuedToken setup.secrets given username issued id .refresh)
      last pair) : Current setup.secrets subject username issued last pair := by
  induction chain with
  | issued => exact ⟨⟨given, id, back, rfl⟩, Int.le_refl issued, expires⟩
  | @renewed last held kept chain desk request later writable brings set ih =>
    by_cases inTime : desk.clock - last < 2592000
    · obtain ⟨-, next, found, current⟩ :=
        renews_in_time named start stands ih brings later writable inTime
      cases set.symm.trans found
      exact current
    · -- a client that came too late has nothing to go on with
      have ends := ends_too_late named start ih brings (Int.not_lt.mp inTime)
      cases set.symm.trans ends.keeps

/-- A user who has a subject and a name or none stays the same caller through any number of
renewals. Each succeeds that comes in less than thirty days after the last one, and the first that
comes later ends this. -/
theorem renewals_keep_the_caller (setup : Setup) (id : String)
    (found : user.get? "sub" = some (.str subject)) (filled : subject ≠ "")
    (name : ∀ value, user.get? "username" = some value →
      value = .null ∨ ∃ text : String, value = .str text)
    (start : IsWritable issued) (expires : IsWritable (issued + 2592000)) :
    ∃ pair claims caller, Session.pairFor setup.secrets user issued id = .ok pair ∧
      Session.verify setup.secrets .access issued pair.access = .ok claims ∧
      Caller.ofClaims (.object claims) = .ok caller ∧
      ∀ (last : Int) (held : String) (desk : Desk) (request : Request),
        Chain setup issued pair.refresh last held → last ≤ desk.clock →
        IsWritable (desk.clock + 2592000) → Brings request held →
        (desk.clock - last < 2592000 →
          Renews setup.secrets desk.clock caller ((serve setup request).run desk).1) ∧
        (2592000 ≤ desk.clock - last → Ends ((serve setup request).run desk).1) := by
  have named : (user.get? "username").getD .null = .null ∨
      ∃ text : String, (user.get? "username").getD .null = .str text := by
    cases held : user.get? "username" with
    | none => exact .inl rfl
    | some value => exact name value held
  obtain ⟨caller, stands⟩ := ofClaims_subject (Json.rejoined_ne_empty filled)
    ((user.get? "username").getD .null)
  refine ⟨_, _, caller, pairFor_user found,
    accepted_in_time named start id .access (Int.le_refl issued) expires (Int.le_refl issued)
      (Int.lt_add_of_pos_right issued (by decide)),
    (ofClaims_issuedClaims ..).trans stands, ?_⟩
  intro last held desk request chain later writable brings
  have current := chain.current named start stands expires rfl
  exact ⟨fun inTime => (renews_in_time named start stands current brings later writable inTime).1,
    ends_too_late named start current brings⟩

/-- Ida, who has no name and was given tokens at second 1000, is the same caller when she renews
them at second 2000 and thirty days later, less a second. With that second she is too late. -/
theorem renewals_keep_the_caller_lastSecond :
    IsWritable 1000 ∧ IsWritable (1000 + 2592000) ∧
    ∃ pair caller kept,
      Session.pairFor unshared.secrets (.object [("sub", .str "ida")]) 1000 "jti1" = .ok pair ∧
      Renews unshared.secrets 2000 caller
        ((serve unshared (renewal (refreshPair pair.refresh))).run (Desk.opened 2000)).1 ∧
      keptPair? ((serve unshared (renewal (refreshPair pair.refresh))).run (Desk.opened 2000)).1 =
        some kept ∧
      Renews unshared.secrets 2593999 caller
        ((serve unshared (renewal kept)).run (Desk.opened 2593999)).1 ∧
      Ends ((serve unshared (renewal kept)).run (Desk.opened 2594000)).1 := by
  have start : IsWritable 1000 := Session.isWritable_of_small (by decide)
  have expires : IsWritable (1000 + 2592000) := Session.isWritable_of_small (by decide)
  have found : (Value.object [("sub", .str "ida")]).get? "sub" = some (.str "ida") := rfl
  obtain ⟨pair, claims, caller, given, opens, stands, renews⟩ := renewals_keep_the_caller unshared
    "jti1" found (by decide) (fun value named => by cases named) start expires
  cases (pairFor_user found).symm.trans given
  have brought (subject : Text) (last : Int) (id : String) :
      Brings (renewal (refreshPair (issuedToken unshared.secrets subject .null last id .refresh)))
        (refreshPair (issuedToken unshared.secrets subject .null last id .refresh)) :=
    brings_renewal (Session.visible_signedToken _ _)
      (Session.forall_mem_signedToken (by decide) (by decide) _ _)
  have first := (renews 1000 _ (Desk.opened 2000) _ .issued (by decide)
    (Session.isWritable_of_small (by decide)) (brought "ida" 1000 "jti1")).1 (by decide)
  obtain ⟨kept, set⟩ := Option.isSome_iff_exists.mp first.keeps
  have chain : Chain unshared 1000 _ 2000 kept :=
    .renewed .issued (Desk.opened 2000) _ (by decide) (Session.isWritable_of_small (by decide))
      (brought "ida" 1000 "jti1") set
  have ida : Caller.ofClaims (.object [("sub", .str "ida"), ("username", .null)]) =
      .ok ⟨"ida", "ida"⟩ := rfl
  obtain ⟨subject, next, -, rfl⟩ :=
    (chain.current (.inl rfl) start ida expires (Json.rejoined_whole "ida")).token
  refine ⟨start, expires, _, caller, _, given, first, set, ?_, ?_⟩
  · exact (renews 2000 _ (Desk.opened 2593999) _ chain (by decide)
      (Session.isWritable_of_small (by decide)) (brought subject 2000 next)).1 (by decide)
  · exact (renews 2000 _ (Desk.opened 2594000) _ chain (by decide)
      (Session.isWritable_of_small (by decide)) (brought subject 2000 next)).2 (by decide)

end SurveyDesk.Http
