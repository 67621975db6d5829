import SurveyDesk.Proofs.Session.Issue

/-! How long a token is accepted. Before its time of issue a token is not valid yet, from then on it
says exactly what it was given out with, and once its lifetime is over it has expired. Times are
whole numbers with as many digits as a document can hold. -/
namespace SurveyDesk.Session

variable {subject : Text} {username : Value} {issued : Int}

/-- The answer to a token with claims that hold from a time on and expire at another. -/
def answerAt (now issued expires : Int) (claims : Entries) : Except Rejection Entries :=
  if now < issued then .error (.notYetValid .issuedAt)
  else if expires ≤ now then .error .expired
  else .ok claims

/-- Whether a time has few enough digits to be written in a token and read back. The seconds that a
clock shows as a double always have. -/
def IsWritable (time : Int) : Prop := time.natAbs < Nat.pow 10 Json.numeralLimit

theorem isWritable_between {low time high : Int} (first : IsWritable low) (last : IsWritable high)
    (above : low ≤ time) (below : time ≤ high) : IsWritable time := by
  unfold IsWritable at first last ⊢
  omega

/-- Claims that were given out pass every check but those of time. -/
private theorem checkClaims_issued (id : String) (use : Use) (now : Int) :
    checkClaims (issuedClaims (.str subject) username issued id use) now =
      if now < issued then .error (.notYetValid .issuedAt)
      else if issued + use.lifetime ≤ now then .error .expired
      else .ok () := by
  let claims := issuedClaims (.str subject) username issued id use
  have required : checkRequired claims requiredClaims = .ok () := rfl
  have reached : checkReached claims now .issuedAt =
      if now < issued then .error (.notYetValid .issuedAt) else .ok () := rfl
  have notBefore : checkReached claims now .notBefore = .ok () := by cases use <;> rfl
  have expiry : checkExpiry claims now =
      if issued + use.lifetime ≤ now then .error .expired else .ok () := rfl
  have issuer : checkIssuer claims = .ok () := rfl
  have audience : checkAudience claims = .ok () := rfl
  have subject : checkText claims "sub" .subjectNotText = .ok () := rfl
  have tokenId : checkText claims "jti" .tokenIdNotText = .ok () := by cases use <;> rfl
  rw [checkClaims, required, reached, notBefore, expiry, issuer, audience, subject, tokenId]
  split
  · rfl
  · split <;> rfl

/-- What is given out of texts and writable times is read back as it was, except that halves of a
pair side by side in the subject have become a character. -/
private theorem objectOf_issued (id : String) (use : Use)
    (name : username = .null ∨ ∃ text : String, username = .str text)
    (writable : IsWritable issued) (expires : IsWritable (issued + use.lifetime)) :
    objectOf .payload (Utf8.encode (Json.write .compact
      (.object (issuedClaims (.str subject) username issued id use)))) =
        .ok (issuedClaims (.str (Json.rejoined subject)) username issued id use) := by
  have iat := Json.reread_int writable Json.nestingLimit 1
  have exp := Json.reread_int expires Json.nestingLimit 1
  have text (text : Text) :
      Json.reread Json.nestingLimit 1 (.str text) = .ok (.str (Json.rejoined text)) := rfl
  have shown : Json.reread Json.nestingLimit 1 username = .ok username := by
    obtain rfl | ⟨text, rfl⟩ := name
    · rfl
    · exact Json.reread_whole _ _ _
  have back : List.Forall₂ (fun entry read => read.1 = Json.rejoined entry.1 ∧
      Json.reread Json.nestingLimit 1 entry.2 = .ok read.2)
      (issuedClaims (.str subject) username issued id use)
      (issuedClaims (.str (Json.rejoined subject)) username issued id use) := by
    cases use <;>
      simp [issuedClaims, Use.identity, issuer, audience, Use.name, iat, exp, text, shown]
  rw [objectOf_eq_ok, Json.readOctets_object,
    Json.reread_object (by decide) (issuedClaims_distinct _ _ _ _ _) back]
  rfl

/-- A token that was given out is accepted with its claims within its time, and never else. -/
theorem verify_issued (secrets : Secrets) (id : String) (use : Use) (now : Int)
    (name : username = .null ∨ ∃ text : String, username = .str text)
    (writable : IsWritable issued) (expires : IsWritable (issued + use.lifetime)) :
    verify secrets use now (issuedToken secrets subject username issued id use) =
      answerAt now issued (issued + use.lifetime)
        (issuedClaims (.str (Json.rejoined subject)) username issued id use) := by
  have typ : (issuedClaims (.str (Json.rejoined subject)) username issued id use).get? "typ" =
      some (.str use.name) := rfl
  rw [verify, issuedToken, signedClaims_signedToken, if_pos rfl,
    objectOf_issued id use name writable expires]
  simp only [ok_bind, checkClaims_issued, typ, if_true, answerAt]
  split
  · rfl
  · split <;> rfl

/-- The tokens of a user with a name or without one are accepted for what they are given out for
from their time of issue on until their lifetime is over. They say exactly what they were given
out with; should the subject hold the two halves of a pair side by side, these have become the
character that they make. -/
theorem issued_tokens_hold_for_their_lifetime (secrets : Secrets) {user : Value} (id : String)
    (found : user.get? "sub" = some (.str subject))
    (name : ∀ value, user.get? "username" = some value →
      value = .null ∨ ∃ text : String, value = .str text)
    (first : IsWritable issued) (last : IsWritable (issued + 2592000)) :
    ∃ pair, pairFor secrets user issued id = .ok pair ∧ ∀ now,
      verify secrets .access now pair.access = answerAt now issued (issued + 900) [
        ("iss", .str issuer), ("aud", .str audience), ("iat", .int issued),
        ("exp", .int (issued + 900)), ("sub", .str (Json.rejoined subject)),
        ("username", (user.get? "username").getD .null), ("typ", .str "access")] ∧
      verify secrets .refresh now pair.refresh = answerAt now issued (issued + 2592000) [
        ("iss", .str issuer), ("aud", .str audience), ("iat", .int issued),
        ("exp", .int (issued + 2592000)), ("sub", .str (Json.rejoined subject)),
        ("username", (user.get? "username").getD .null), ("typ", .str "refresh"),
        ("jti", .str id)] := by
  have named : (user.get? "username").getD .null = .null ∨
      ∃ text : String, (user.get? "username").getD .null = .str text := by
    cases held : user.get? "username" with
    | none => exact .inl rfl
    | some value => exact name value held
  have middle : IsWritable (issued + 900) := by
    unfold IsWritable at first last ⊢
    omega
  exact ⟨_, pairFor_user found, fun now =>
    ⟨verify_issued secrets id .access now named first middle,
      verify_issued secrets id .refresh now named first last⟩⟩

/-- The times of the first three thousand years are writable. -/
theorem isWritable_of_small {time : Int} (small : time.natAbs < 100000000000) :
    IsWritable time := by
  have grows {most : Nat} (more : 11 ≤ most) : 100000000000 ≤ Nat.pow 10 most :=
    calc 100000000000 = 10 ^ 11 := by decide
      _ ≤ 10 ^ most := Nat.pow_le_pow_right (by decide) more
  exact Nat.lt_of_lt_of_le small (grows (by decide))

/-- The two halves of a pair, side by side. -/
private def halves : Text := .ofPoints [.half 0x3D, .half 0x600]

/-- A user whose subject is two halves is given a token that says another subject. -/
theorem halves_come_back_joined :
    ∃ pair, pairFor ⟨"open".toList, "renew".toList⟩ (.object [("sub", .str halves)]) 1000 "jti1" =
        .ok pair ∧
      verify ⟨"open".toList, "renew".toList⟩ .access 1000 pair.access ≠ .ok [
        ("iss", .str issuer), ("aud", .str audience), ("iat", .int 1000), ("exp", .int 1900),
        ("sub", .str halves), ("username", .null), ("typ", .str "access")] := by
  have found : (Value.object [("sub", .str halves)]).get? "sub" = some (.str halves) := rfl
  refine ⟨_, pairFor_user found, fun same => ?_⟩
  have issued : IsWritable 1000 := isWritable_of_small (by decide)
  have expires : IsWritable (1000 + Use.access.lifetime) := isWritable_of_small (by decide)
  have claims := Except.ok.inj ((verify_issued ⟨"open".toList, "renew".toList⟩ "jti1" .access 1000
    (.inl rfl) issued expires).symm.trans same)
  have subject := congrArg (Entries.get? · "sub") claims
  have joined : Json.rejoined halves ≠ halves := by decide
  exact joined (Value.str.inj (Option.some.inj subject))

/-- A user without a name who was given tokens at second 1000. -/
theorem issued_tokens_hold_from_1000 :
    IsWritable 1000 ∧ IsWritable (1000 + 2592000) ∧
    ∃ pair, pairFor ⟨"open".toList, "renew".toList⟩ (.object [("sub", .str "u1")]) 1000 "jti1" =
        .ok pair ∧
      verify ⟨"open".toList, "renew".toList⟩ .access 999 pair.access =
        .error (.notYetValid .issuedAt) ∧
      verify ⟨"open".toList, "renew".toList⟩ .access 1899 pair.access = .ok [
        ("iss", .str issuer), ("aud", .str audience), ("iat", .int 1000), ("exp", .int 1900),
        ("sub", .str "u1"), ("username", .null), ("typ", .str "access")] ∧
      verify ⟨"open".toList, "renew".toList⟩ .refresh 2593000 pair.refresh = .error .expired := by
  have first : IsWritable 1000 := isWritable_of_small (by decide)
  have last : IsWritable (1000 + 2592000) := isWritable_of_small (by decide)
  have found : (Value.object [("sub", .str "u1")]).get? "sub" = some (.str "u1") := rfl
  obtain ⟨pair, given, answers⟩ := issued_tokens_hold_for_their_lifetime
    ⟨"open".toList, "renew".toList⟩ "jti1" found (fun value named => by cases named) first last
  rw [Json.rejoined_whole] at answers
  exact ⟨first, last, pair, given, (answers 999).1, (answers 1899).1, (answers 2593000).2⟩

end SurveyDesk.Session
