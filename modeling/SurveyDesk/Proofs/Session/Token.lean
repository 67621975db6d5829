import SurveyDesk.Proofs.Json.Rereading
import SurveyDesk.Proofs.Text.Base64Url
import SurveyDesk.Proofs.Value.Text
import SurveyDesk.Session.Token

/-! Tokens and their segments. What was signed is taken apart into the segments it was put together
from, and whatever is read as signed has such segments: a header that names the algorithm, the
claims, and the keyed hash of both. -/
namespace SurveyDesk.Session

variable {secret token : List Char} {claims : Entries}

/-! ## Segments -/

/-- The three segments of a token. -/
structure Segments where
  header : List Char
  payload : List Char
  signature : List Char

namespace Segments

/-- The text that is signed. -/
def signed (segments : Segments) : List Char := segments.header ++ '.' :: segments.payload

/-- The segments with dots between them. -/
def text (segments : Segments) : List Char := segments.signed ++ '.' :: segments.signature

end Segments

private theorem splitAtDot?_append {before : List Char} (plain : '.' ∉ before)
    (rest : List Char) : splitAtDot? (before ++ '.' :: rest) = some (before, rest) := by
  induction before with
  | nil => rfl
  | cons c more ih =>
    rw [List.mem_cons, not_or] at plain
    rw [List.cons_append, splitAtDot?, if_neg (Ne.symm plain.1), ih plain.2]
    rfl

private theorem splitAtDot?_eq_some {text before rest : List Char}
    (split : splitAtDot? text = some (before, rest)) :
    text = before ++ '.' :: rest ∧ '.' ∉ before := by
  induction text generalizing before with
  | nil => cases split
  | cons c more ih =>
    rw [splitAtDot?] at split
    by_cases dot : c = '.'
    · rw [if_pos dot] at split
      cases split
      exact ⟨by rw [dot]; rfl, List.not_mem_nil⟩
    · rw [if_neg dot, Option.map_eq_some_iff] at split
      obtain ⟨⟨front, back⟩, found, same⟩ := split
      cases same
      obtain ⟨text, plain⟩ := ih found
      exact ⟨by rw [text]; rfl, by simp [plain, Ne.symm dot]⟩

theorem octetsOf_eq_ok {segment : Segment} {text : List Char} {octets : List UInt8} :
    octetsOf segment text = .ok octets ↔ Base64Url.decode? text = some octets := by
  unfold octetsOf
  cases Base64Url.decode? text <;> simp

theorem objectOf_eq_ok {segment : Segment} {octets : List UInt8} {entries : Entries} :
    objectOf segment octets = .ok entries ↔ Json.readOctets octets = .ok (.object entries) := by
  unfold objectOf
  split <;> simp_all

/-- The parts of segments, of which the first and the last hold no dot. -/
private theorem ofToken_text (segments : Segments) (header : '.' ∉ segments.header)
    (signature : '.' ∉ segments.signature) :
    Parts.ofToken segments.text = do
      let header ← objectOf .header (← octetsOf .header segments.header)
      let payload ← payloadOf header segments.payload
      let signature ← octetsOf .signature segments.signature
      return ⟨header, payload, segments.signed, signature⟩ := by
  -- the last dot is found from behind, as the first one of the text turned around
  have behind : splitAtDot? segments.text.reverse =
      some (segments.signature.reverse, segments.signed.reverse) := by
    have turned : segments.text.reverse =
        segments.signature.reverse ++ '.' :: segments.signed.reverse := by
      simp [Segments.text]
    rw [turned, splitAtDot?_append (by simpa using signature)]
  have front : splitAtDot? segments.signed = some (segments.header, segments.payload) :=
    splitAtDot?_append header segments.payload
  simp only [Parts.ofToken, behind, List.reverse_reverse, front]

/-- Whatever is taken apart has segments, of which the first and the last hold no dot. -/
private theorem segments_of_ofToken (parted : Parts.ofToken token = .ok parts) :
    ∃ segments : Segments,
      token = segments.text ∧ '.' ∉ segments.header ∧ '.' ∉ segments.signature := by
  unfold Parts.ofToken at parted
  split at parted
  · cases parted
  · rename_i last before behind
    dsimp only at parted
    split at parted
    · cases parted
    · rename_i header payload front
      obtain ⟨turned, signature⟩ := splitAtDot?_eq_some behind
      obtain ⟨signed, plain⟩ := splitAtDot?_eq_some front
      refine ⟨⟨header, payload, last.reverse⟩, ?_, plain, by simpa using signature⟩
      have text := congrArg List.reverse turned
      rw [List.reverse_reverse, List.reverse_append, List.reverse_cons, signed,
        List.append_assoc, List.singleton_append] at text
      exact text

/-! ## Reading a token -/

/-- What the segments of a token are that was signed with a secret and says these claims. -/
structure Segments.Sealed (segments : Segments) (secret : List Char) (claims : Entries) : Prop where
  header : ∃ octets, ∃ entries : Entries, Base64Url.decode? segments.header = some octets ∧
    Json.readOctets octets = .ok (.object entries) ∧ entries.get? "alg" = some (.str "HS256")
  payload : ∃ octets, Base64Url.decode? segments.payload = some octets ∧
    Json.readOctets octets = .ok (.object claims)
  signature : Base64Url.decode? segments.signature = some (Session.signature secret segments.signed)

/-- The checks that a header comes to if its key and its extensions are fine. -/
private def checkAlgorithm (header : Entries) : Except Rejection Unit := do
  if isDetached header then
    throw (if (header.get? "crit").isSome then .detachedPayload else .payloadNotCritical)
  match header.get? "alg" with
  | none => throw .algorithmMissing
  | some value => if value.equals (.str algorithm) then pure () else throw .algorithmNotAllowed

private theorem of_checkAlgorithm {header : Entries} (passed : checkAlgorithm header = .ok ()) :
    isDetached header = false ∧ header.get? "alg" = some (.str "HS256") := by
  unfold checkAlgorithm at passed
  cases detached : isDetached header with
  | true =>
    rw [detached] at passed
    cases passed
  | false =>
    simp only [detached, Bool.false_eq_true, if_false] at passed
    split at passed
    · cases passed
    · rename_i value found
      split at passed
      · rename_i same
        refine ⟨rfl, ?_⟩
        rw [found, Value.equals_text_iff.mp same]
        rfl
      · cases passed

/-- The checks of a header end with the algorithm, and none of them lets a detached payload
through. -/
private theorem of_checkHeader {header : Entries} (usable : checkHeader header = .ok ()) :
    isDetached header = false ∧ header.get? "alg" = some (.str "HS256") := by
  simp only [checkHeader] at usable
  split at usable
  case h_3 => cases usable
  all_goals
    split at usable
    · exact of_checkAlgorithm usable
    · split at usable
      · exact of_checkAlgorithm usable
      · cases usable
    · cases usable

private theorem payloadOf_plain {header : Entries} (plain : isDetached header = false)
    (text : List Char) : payloadOf header text = octetsOf .payload text := by
  rw [payloadOf, plain]
  rfl

/-- A token whose claims are read has segments that are sealed. -/
theorem sealed_of_signedClaims (read : signedClaims secret token = .ok claims) :
    ∃ segments : Segments, token = segments.text ∧ segments.Sealed secret claims := by
  simp only [signedClaims, bind_eq_ok] at read
  obtain ⟨parts, parted, ⟨⟩, usable, rest⟩ := read
  obtain ⟨segments, rfl, header, signature⟩ := segments_of_ofToken parted
  rw [ofToken_text segments header signature] at parted
  simp only [bind_eq_ok, octetsOf_eq_ok, objectOf_eq_ok, pure_eq_ok, Except.ok.injEq] at parted
  obtain ⟨headerOctets, headerText, entries, headerRead, payload, payloadText, hash, hashText,
    rfl⟩ := parted
  obtain ⟨plain, algorithm⟩ := of_checkHeader usable
  rw [payloadOf_plain plain, octetsOf_eq_ok] at payloadText
  split at rest
  · rename_i matched
    refine ⟨segments, rfl, ⟨headerOctets, entries, headerText, headerRead, algorithm⟩,
      ⟨payload, payloadText, objectOf_eq_ok.mp rest⟩, ?_⟩
    exact hashText.trans (congrArg some matched.symm)
  · cases rest

/-- The claims of a token do not depend on the secret that it is read with. -/
theorem signedClaims_unique {other : List Char} {others : Entries}
    (first : signedClaims secret token = .ok claims)
    (second : signedClaims other token = .ok others) : claims = others := by
  simp only [signedClaims, bind_eq_ok] at first second
  obtain ⟨parts, parted, -, -, first⟩ := first
  obtain ⟨same, again, -, -, second⟩ := second
  cases parted.symm.trans again
  split at first <;> split at second <;> simp_all

/-- A token that was signed is taken apart into what it was put together from. -/
private theorem ofToken_signedToken (secret : List Char) (payload : Value) :
    Parts.ofToken (signedToken secret payload) = .ok {
      header := [("alg", .str "HS256"), ("typ", .str "JWT")]
      payload := Utf8.encode (Json.write .compact payload)
      signed := segmentOf tokenHeader ++ '.' :: segmentOf payload
      signature := signature secret (segmentOf tokenHeader ++ '.' :: segmentOf payload) } := by
  let segments : Segments := ⟨segmentOf tokenHeader, segmentOf payload,
    Base64Url.encode (signature secret (segmentOf tokenHeader ++ '.' :: segmentOf payload))⟩
  have header : objectOf .header (Utf8.encode (Json.write .compact tokenHeader)) =
      .ok [("alg", .str "HS256"), ("typ", .str "JWT")] := by
    rw [objectOf_eq_ok, tokenHeader, Json.readOctets_object]
    rfl
  have decoded (segment : Segment) (octets : List UInt8) :
      octetsOf segment (Base64Url.encode octets) = .ok octets :=
    octetsOf_eq_ok.mpr (Base64Url.decode?_encode octets)
  have taken := ofToken_text segments (Base64Url.dot_not_mem_encode _)
    (Base64Url.dot_not_mem_encode _)
  simp only [segments, segmentOf, decoded, ok_bind, header] at taken
  rw [payloadOf_plain rfl, decoded] at taken
  exact taken

/-- A token that was signed says what its payload is read back as, if its signature holds under
the secret that it is read with. -/
theorem signedClaims_signedToken (secret other : List Char) (entries : Entries) :
    signedClaims other (signedToken secret (.object entries)) =
      if signature other (segmentOf tokenHeader ++ '.' :: segmentOf (.object entries)) =
          signature secret (segmentOf tokenHeader ++ '.' :: segmentOf (.object entries)) then
        objectOf .payload (Utf8.encode (Json.write .compact (.object entries)))
      else .error .badSignature := by
  have usable : checkHeader [("alg", .str "HS256"), ("typ", .str "JWT")] = .ok () := rfl
  simp only [signedClaims, ofToken_signedToken, ok_bind, usable]
  rfl

/-- What holds of the letters of a segment and of the dot holds of the characters of a token. -/
theorem forall_mem_signedToken {holds : Char → Prop}
    (each : ∀ bits < 64, holds (Base64Url.letter bits)) (dot : holds '.') (secret : List Char)
    (payload : Value) : ∀ c ∈ signedToken secret payload, holds c := by
  intro c member
  simp only [signedToken, segmentOf, List.mem_append, List.mem_cons, or_assoc] at member
  rcases member with header | rfl | payload | rfl | signature
  · exact Base64Url.forall_mem_encode each _ c header
  · exact dot
  · exact Base64Url.forall_mem_encode each _ c payload
  · exact dot
  · exact Base64Url.forall_mem_encode each _ c signature

/-- A token consists of visible characters of ASCII. -/
theorem visible_signedToken (secret : List Char) (payload : Value) :
    ∀ c ∈ signedToken secret payload, 0x21 ≤ c.toNat ∧ c.toNat < 0x7F :=
  forall_mem_signedToken (by decide) (by decide) secret payload

theorem signedToken_ne_nil (secret : List Char) (payload : Value) :
    signedToken secret payload ≠ [] := by
  simp [signedToken]

end SurveyDesk.Session
