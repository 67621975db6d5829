import SurveyDesk.Proofs.Session.Lifetime

/-! What is accepted as a token. Whoever made it, an accepted token has three segments, is signed
with the secret of its use, and makes claims that hold now. The claims name the use, so a token is
never accepted for both uses. -/
namespace SurveyDesk.Session

variable {secrets : Secrets} {use : Use} {now : Int} {token : List Char} {claims : Entries}

/-! ## Claims that pass -/

private theorem of_checkRequired {keys : List String}
    (passed : checkRequired claims keys = .ok ()) :
    ∀ key ∈ keys, ∃ value, claims.get? key = some value := by
  induction keys with
  | nil => simp
  | cons first rest ih =>
    rw [checkRequired] at passed
    split at passed
    · cases passed
    · cases passed
    · rename_i value _ held
      intro key member
      rcases List.mem_cons.mp member with rfl | behind
      · exact ⟨value, held⟩
      · exact ih passed key behind

private theorem of_checkReached {claim : TimeClaim} (held : claims.get? claim.key = some value)
    (passed : checkReached claims now claim = .ok ()) :
    ∃ time, wholeOf claim value = .ok time ∧ time ≤ now := by
  rw [checkReached, held] at passed
  obtain ⟨time, whole, reached⟩ := bind_eq_ok.mp passed
  refine ⟨time, whole, ?_⟩
  by_contra later
  rw [if_pos (by omega)] at reached
  cases reached

private theorem of_checkExpiry (held : claims.get? "exp" = some value)
    (passed : checkExpiry claims now = .ok ()) :
    ∃ time, wholeOf .expires value = .ok time ∧ now < time := by
  rw [checkExpiry, TimeClaim.key, held] at passed
  obtain ⟨time, whole, left⟩ := bind_eq_ok.mp passed
  refine ⟨time, whole, ?_⟩
  by_contra late
  rw [if_pos (by omega)] at left
  cases left

private theorem of_checkIssuer (passed : checkIssuer claims = .ok ()) :
    claims.get? "iss" = some (.str issuer) := by
  unfold checkIssuer at passed
  split at passed
  · cases passed
  · rename_i name held
    split at passed
    · rename_i same
      rw [held, same]
    · cases passed
  · cases passed

private theorem of_audiencesOf_list {names : List Value} (texts : List Text)
    (read : audiencesOf (.list names) = .ok texts) : names = texts.map .str := by
  induction names generalizing texts with
  | nil => cases read; rfl
  | cons name rest ih =>
    simp only [audiencesOf, List.mapM_cons, bind_eq_ok] at read
    obtain ⟨text, first, more, others, same⟩ := read
    cases same
    rw [List.map_cons, ← ih more others]
    split at first
    · cases first
      rfl
    · cases first

private theorem of_checkAudience (passed : checkAudience claims = .ok ()) :
    claims.get? "aud" = some (.str audience) ∨
      ∃ names, claims.get? "aud" = some (.list names) ∧ .str audience ∈ names := by
  simp only [checkAudience] at passed
  split at passed
  · cases passed
  · obtain ⟨texts, read, found⟩ := bind_eq_ok.mp passed
    have named : (audience : Text) ∈ texts := by
      by_contra absent
      rw [if_neg (by simpa using absent)] at found
      cases found
    cases held : claims.get? "aud" with
    | none =>
      rw [held] at read
      cases read
    | some value =>
      rw [held, Option.getD_some] at read
      cases value with
      | str name =>
        cases read
        exact .inl (by rw [List.mem_singleton.mp named])
      | list names =>
        refine .inr ⟨names, rfl, ?_⟩
        rw [of_audiencesOf_list texts read]
        exact List.mem_map_of_mem named
      | _ => cases read

private theorem of_checkText {key : String} {rejection : Rejection}
    (held : claims.get? key = some value) (passed : checkText claims key rejection = .ok ()) :
    ∃ text, claims.get? key = some (.str text) := by
  unfold checkText at passed
  rw [held] at passed
  split at passed
  · rename_i none
    cases none
  · rename_i text same
    exact ⟨text, held.trans same⟩
  · cases passed

/-- What claims say that hold now for a use. Times are read as whole numbers, without a fraction
that they may have. -/
structure Holds (use : Use) (now : Int) (claims : Entries) : Prop where
  subject : ∃ text, claims.get? "sub" = some (.str text)
  issuer : claims.get? "iss" = some (.str issuer)
  audience : claims.get? "aud" = some (.str audience) ∨
    ∃ names, claims.get? "aud" = some (.list names) ∧ .str audience ∈ names
  issued : ∃ value time, claims.get? "iat" = some value ∧ wholeOf .issuedAt value = .ok time ∧
    time ≤ now
  expires : ∃ value time, claims.get? "exp" = some value ∧ wholeOf .expires value = .ok time ∧
    now < time
  use : claims.get? "typ" = some (.str use.name)

private theorem holds_of_checkClaims (passed : checkClaims claims now = .ok ())
    (typ : claims.get? "typ" = some (.str use.name)) : Holds use now claims := by
  simp only [checkClaims, bind_eq_ok] at passed
  obtain ⟨_, required, _, reached, _, _, _, expiry, _, issuer, _, audience, _, subject, _⟩ :=
    passed
  have present := of_checkRequired required
  obtain ⟨sub, subHeld⟩ := present "sub" (by decide)
  obtain ⟨iat, iatHeld⟩ := present "iat" (by decide)
  obtain ⟨exp, expHeld⟩ := present "exp" (by decide)
  exact {
    subject := of_checkText subHeld subject
    issuer := of_checkIssuer issuer
    audience := of_checkAudience audience
    issued := ⟨iat, (of_checkReached iatHeld reached).imp fun _ found => ⟨iatHeld, found⟩⟩
    expires := ⟨exp, (of_checkExpiry expHeld expiry).imp fun _ found => ⟨expHeld, found⟩⟩
    use := typ }

/-! ## Tokens that are accepted -/

/-- What is accepted is signed, and its claims hold. -/
theorem of_verify (accepted : verify secrets use now token = .ok claims) :
    signedClaims (secrets.of use) token = .ok claims ∧ Holds use now claims := by
  simp only [verify, bind_eq_ok] at accepted
  obtain ⟨read, signed, _, passed, rest⟩ := accepted
  split at rest
  · rename_i name held
    split at rest
    · rename_i same
      cases rest
      exact ⟨signed, holds_of_checkClaims passed (held.trans (by rw [same]))⟩
    · cases rest
  · cases rest

/-- The segments of an accepted token. -/
private theorem segments_of_verify (accepted : verify secrets use now token = .ok claims) :
    ∃ segments : Segments, token = segments.text ∧
      (∀ part ∈ [segments.header, segments.payload, segments.signature], '.' ∉ part) ∧
      segments.Sealed (secrets.of use) claims := by
  obtain ⟨segments, text, sealed⟩ := sealed_of_signedClaims (of_verify accepted).1
  obtain ⟨_, _, header, _⟩ := sealed.header
  obtain ⟨_, payload, _⟩ := sealed.payload
  refine ⟨segments, text, ?_, sealed⟩
  simp only [List.forall_mem_cons, List.not_mem_nil, false_implies, implies_true, and_true]
  exact ⟨Base64Url.dot_not_mem_of_decode? header, Base64Url.dot_not_mem_of_decode? payload,
    Base64Url.dot_not_mem_of_decode? sealed.signature⟩

/-- A token that was given out is read, if it is, with what it was given out with, whatever secret
it is read with. -/
theorem claim_of_issued {secret other : List Char} {subject username value : Value} {issued : Int}
    {id key : String} (held : (issuedClaims subject username issued id use).get? key = some value)
    (kept : ∀ limit depth back, Json.reread limit depth value = .ok back → back = value)
    (read : signedClaims other (signedToken secret
      (.object (issuedClaims subject username issued id use))) = .ok claims) :
    claims.get? key = some value := by
  rw [signedClaims_signedToken] at read
  split at read
  · rw [objectOf_eq_ok, Json.readOctets_object, mapError_eq_ok] at read
    obtain ⟨back, found, same⟩ := Json.get?_of_reread_object read
      (issuedClaims_distinct subject username issued id use)
      (issuedClaims_settled subject username issued id use) held
    rw [found, kept _ _ back same]
  · cases read

/-- A token that was given out for a use names it. -/
private theorem use_of_issued {secret other : List Char} {subject username : Value} {issued : Int}
    {id : String} (read : signedClaims other (signedToken secret
      (.object (issuedClaims subject username issued id use))) = .ok claims) :
    claims.get? "typ" = some (.str use.name) := by
  apply claim_of_issued rfl ?_ read
  intro limit depth back same
  have name : Json.rejoined use.name = use.name := by cases use <;> exact Json.rejoined_whole _
  rw [Json.reread, name] at same
  cases same
  rfl

/-- A token that was given out says when it expires. -/
theorem expiry_of_issued {secret other : List Char} {subject username : Value} {issued : Int}
    {id : String} (read : signedClaims other (signedToken secret
      (.object (issuedClaims subject username issued id use))) = .ok claims) :
    claims.get? "exp" = some (.int (issued + use.lifetime)) := by
  apply claim_of_issued rfl ?_ read
  intro limit depth back same
  rw [Json.reread] at same
  split at same
  · cases same
  · cases same
    rfl

private theorem name_injective {first second : Use} (same : first.name = second.name) :
    first = second := by
  cases first <;> cases second <;> first | rfl | exact absurd same (by decide)

/-- No token is accepted for both uses, at whatever times. What is given out for one use is not
accepted for the other. And whatever is accepted is a well-formed token, signed with the secret of
the use, whose claims hold now. -/
theorem accepted_tokens_are_sealed_for_one_use (secrets : Secrets) :
    (∀ token now later claims others, verify secrets .access now token = .ok claims →
      verify secrets .refresh later token ≠ .ok others) ∧
    (∀ user issued id pair, pairFor secrets user issued id = .ok pair → ∀ now claims,
      verify secrets .access now pair.refresh ≠ .ok claims ∧
      verify secrets .refresh now pair.access ≠ .ok claims) ∧
    (∀ use now token claims, verify secrets use now token = .ok claims →
      ∃ segments : Segments, token = segments.text ∧
        (∀ part ∈ [segments.header, segments.payload, segments.signature], '.' ∉ part) ∧
        segments.Sealed (secrets.of use) claims ∧ Holds use now claims) := by
  refine ⟨?_, ?_, ?_⟩
  · intro token now later claims others access refresh
    obtain ⟨accessRead, accessHolds⟩ := of_verify access
    obtain ⟨refreshRead, refreshHolds⟩ := of_verify refresh
    cases signedClaims_unique accessRead refreshRead
    have same : Use.access = Use.refresh :=
      name_injective (by simpa using accessHolds.use.symm.trans refreshHolds.use)
    cases same
  · intro user issued id pair given now claims
    obtain ⟨subject, -, tokens, -, -⟩ := pairFor_eq_ok.mp given
    -- a token of the pair names its own use, an accepted one the use that it is accepted for
    have apart (use other : Use) (accepted : verify secrets other now (pair.of use) = .ok claims) :
        use = other := by
      obtain ⟨read, holds⟩ := of_verify accepted
      rw [tokens use] at read
      exact name_injective (by simpa using (use_of_issued read).symm.trans holds.use)
    exact ⟨fun accepted => absurd (apart .refresh .access accepted) (by decide),
      fun accepted => absurd (apart .access .refresh accepted) (by decide)⟩
  · intro use now token claims accepted
    obtain ⟨segments, text, plain, sealed⟩ := segments_of_verify accepted
    exact ⟨segments, text, plain, sealed, (of_verify accepted).2⟩

/-- The access token of a user who was given tokens at second 1000. -/
theorem accepted_at_1000 :
    ∃ pair claims,
      pairFor ⟨"open".toList, "renew".toList⟩ (.object [("sub", .str "u1")]) 1000 "jti1" =
        .ok pair ∧
      verify ⟨"open".toList, "renew".toList⟩ .access 1000 pair.access = .ok claims ∧
      (∀ later others,
        verify ⟨"open".toList, "renew".toList⟩ .refresh later pair.access ≠ .ok others) ∧
      (∀ later others,
        verify ⟨"open".toList, "renew".toList⟩ .access later pair.refresh ≠ .ok others) ∧
      (∃ segments : Segments, pair.access = segments.text ∧
        segments.Sealed "open".toList claims) ∧
      Holds .access 1000 claims := by
  let secrets : Secrets := ⟨"open".toList, "renew".toList⟩
  obtain ⟨apart, ownUse, sealed⟩ := accepted_tokens_are_sealed_for_one_use secrets
  have given : pairFor secrets (.object [("sub", .str "u1")]) 1000 "jti1" =
      .ok (issuedPair secrets "u1" .null 1000 "jti1") := pairFor_user rfl
  have started : IsWritable 1000 := isWritable_of_small (by decide)
  have expires : IsWritable (1000 + Use.access.lifetime) :=
    isWritable_of_small (by decide)
  have accepted : verify secrets .access 1000 (issuedToken secrets "u1" .null 1000 "jti1" .access) =
      .ok (issuedClaims (.str "u1") .null 1000 "jti1" .access) := by
    rw [verify_issued secrets "jti1" .access 1000 (.inl rfl) started expires, Json.rejoined_whole]
    rfl
  obtain ⟨segments, text, -, sealed, holds⟩ := sealed .access 1000 _ _ accepted
  exact ⟨_, _, given, accepted, fun later others => apart _ 1000 later _ others accepted,
    fun later others => (ownUse _ _ _ _ given later others).1, ⟨segments, text, sealed⟩, holds⟩

/-- The claims of a token that was issued half a second past second 1000. -/
def halfPastClaims : Entries := [
  ("iss", .str issuer), ("aud", .str audience),
  ("iat", .float (.finite false 8800396557058048 (-43))), ("exp", .int 1900), ("sub", .str "u1"),
  ("typ", .str "access")]

private theorem verify_halfPast (secrets : Secrets) :
    verify secrets .access 1000 (signedToken secrets.access (.object halfPastClaims)) =
      .ok halfPastClaims := by
  have half : Json.rereadDouble (.finite false 8800396557058048 (-43)) =
      .finite false 8800396557058048 (-43) := by decide +kernel
  have expires : IsWritable 1900 := isWritable_of_small (by decide)
  have fits := Json.reread_int expires Json.nestingLimit 1
  have issued : Json.reread Json.nestingLimit 1 (.float (.finite false 8800396557058048 (-43))) =
      .ok (.float (.finite false 8800396557058048 (-43))) := by rw [Json.reread, half]
  have kept : List.Forall₂ (fun entry read => read.1 = Json.rejoined entry.1 ∧
      Json.reread Json.nestingLimit 1 entry.2 = .ok read.2) halfPastClaims halfPastClaims := by
    simp [halfPastClaims, issuer, audience, fits, issued]
  have read : signedClaims (secrets.of .access)
      (signedToken secrets.access (.object halfPastClaims)) = .ok halfPastClaims := by
    rw [Secrets.of, signedClaims_signedToken, if_pos rfl, objectOf_eq_ok, Json.readOctets_object,
      Json.reread_object (by decide) (by decide) kept]
    rfl
  have passed : checkClaims halfPastClaims 1000 = .ok () := rfl
  rw [verify, read, ok_bind, passed]
  rfl

/-- A fraction of the time of issue is cut off: at second 1000 a token is accepted that was issued
half a second later. -/
theorem accepted_half_a_second_early :
    verify ⟨"test-access-secret-0123456789abcdef".toList,
        "test-refresh-secret-0123456789abcdef".toList⟩ .access 1000
      (signedToken "test-access-secret-0123456789abcdef".toList (.object halfPastClaims)) =
        .ok halfPastClaims ∧
      ∃ issued, halfPastClaims.get? "iat" = some issued ∧
        issued.place?.map (fun place => place.order (.ofInt 1000)) = some .gt :=
  ⟨verify_halfPast _, _, rfl, by decide⟩

end SurveyDesk.Session
