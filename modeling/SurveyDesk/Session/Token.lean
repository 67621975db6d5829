import SurveyDesk.Json.Writer
import SurveyDesk.Session.Rejection
import SurveyDesk.Session.Sha256
import SurveyDesk.Text.Base64Url
import SurveyDesk.Value.Equality

/-!
Signed tokens. A token has three segments between dots: a header, a payload, and the keyed hash of
both under a secret. The header and the payload are JSON objects, and every segment is written as
letters.
-/
namespace SurveyDesk.Session

/-- The algorithm that tokens are signed with. -/
def algorithm : Text := "HS256"

/-- The header of the tokens that are given out. -/
def tokenHeader : Value := .object [("alg", .str algorithm), ("typ", .str "JWT")]

/-- A value as a segment. -/
def segmentOf (value : Value) : List Char :=
  Base64Url.encode (Utf8.encode (Json.write .compact value))

/-- The signature of a header and a payload with a dot between them. -/
def signature (secret signed : List Char) : List UInt8 :=
  Sha256.keyed (Utf8.encode secret) (Utf8.encode signed)

/-- The token with a payload, signed with a secret. -/
def signedToken (secret : List Char) (payload : Value) : List Char :=
  let signed := segmentOf tokenHeader ++ '.' :: segmentOf payload
  signed ++ '.' :: Base64Url.encode (signature secret signed)

/-- The parts of a text before and behind its first dot. -/
def splitAtDot? : List Char → Option (List Char × List Char)
  | [] => none
  | c :: rest =>
    if c = '.' then some ([], rest)
    else (splitAtDot? rest).map fun parts => (c :: parts.1, parts.2)

/-- A token taken apart. `signed` is the text that the signature is for. -/
structure Parts where
  header : Entries
  payload : List UInt8
  signed : List Char
  signature : List UInt8
  deriving Repr

/-- The octets of a segment. -/
def octetsOf (segment : Segment) (text : List Char) : Except Rejection (List UInt8) :=
  match Base64Url.decode? text with
  | some octets => .ok octets
  | none => .error (.badSegment segment)

/-- The object that the octets of a segment hold. -/
def objectOf (segment : Segment) (octets : List UInt8) : Except Rejection Entries :=
  match Json.readOctets octets with
  | .ok (.object entries) => .ok entries
  | .ok _ => .error (.notObject segment)
  | .error fault => .error (.unreadable segment fault)

/-- The extension that changes how the payload is written. -/
def payloadExtension : Text := "b64"

/-- Whether the payload of a token with a header is handed over beside the token. -/
def isDetached (header : Entries) : Bool :=
  match header.get? payloadExtension with
  | some (.bool false) => true
  | _ => false

/-- The octets of the payload segment, which is empty if the payload is detached. -/
def payloadOf (header : Entries) (text : List Char) : Except Rejection (List UInt8) :=
  if isDetached header then
    if text.isEmpty then .ok [] else .error .payloadNotEmpty
  else octetsOf .payload text

/-- A token taken apart: the signature stands behind the last dot, the header before the first. -/
def Parts.ofToken (token : List Char) : Except Rejection Parts :=
  match splitAtDot? token.reverse with
  | none => .error .tooFewSegments
  | some (last, before) =>
    let signed := before.reverse
    match splitAtDot? signed with
    | none => .error .tooFewSegments
    | some (header, payload) => do
      let header ← objectOf .header (← octetsOf .header header)
      let payload ← payloadOf header payload
      let signature ← octetsOf .signature last.reverse
      return ⟨header, payload, signed, signature⟩

/-- Refuses a list of critical extensions that is malformed, or that names one which is unknown or
not used. -/
def checkCritical (header : Entries) : List Value → Except CriticalFault Unit
  | [] => .ok ()
  | .str extension :: rest =>
    if extension ≠ payloadExtension then .error (.unsupported extension)
    else if !header.has extension then .error (.absent extension)
    else checkCritical header rest
  | _ :: _ => .error .notTexts

/-- Refuses a header that is not usable. -/
def checkHeader (header : Entries) : Except Rejection Unit := do
  match header.get? "kid" with
  | none | some (.str _) => pure ()
  | some _ => throw .keyIdNotText
  match header.get? "crit" with
  | none => pure ()
  | some (.list (first :: rest)) =>
    match checkCritical header (first :: rest) with
    | .ok _ => pure ()
    | .error fault => throw (.badCritical fault)
  | some _ => throw (.badCritical .notList)
  if isDetached header then
    throw (if (header.get? "crit").isSome then .detachedPayload else .payloadNotCritical)
  match header.get? "alg" with
  | none => throw .algorithmMissing
  | some value => if value.equals (.str algorithm) then pure () else throw .algorithmNotAllowed

/-- The claims of a token that was signed with a secret. -/
def signedClaims (secret token : List Char) : Except Rejection Entries := do
  let parts ← Parts.ofToken token
  checkHeader parts.header
  if signature secret parts.signed = parts.signature then objectOf .payload parts.payload
  else throw .badSignature

end SurveyDesk.Session
