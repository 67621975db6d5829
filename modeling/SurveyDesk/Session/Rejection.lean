import SurveyDesk.Json.Octets

/-!
Why a token is not accepted, and how that is reported.
-/
namespace SurveyDesk.Session

/-- The parts of a token. -/
inductive Segment where
  | header
  | payload
  | signature
  deriving DecidableEq, Repr

/-- The name of a part in reports. -/
def Segment.name : Segment → String
  | .header => "header"
  | .payload => "payload"
  | .signature => "crypto"

/-- What is wrong with the list of extensions that a token declares critical. -/
inductive CriticalFault where
  | notList
  | notTexts
  | unsupported (extension : Text)
  | absent (extension : Text)
  deriving DecidableEq, Repr

/-- The claims that hold a time. -/
inductive TimeClaim where
  | issuedAt
  | notBefore
  | expires
  deriving DecidableEq, Repr

/-- The key of a claim that holds a time. -/
def TimeClaim.key : TimeClaim → String
  | .issuedAt => "iat"
  | .notBefore => "nbf"
  | .expires => "exp"

/-- The name of a claim that holds a time. -/
def TimeClaim.title : TimeClaim → String
  | .issuedAt => "Issued At"
  | .notBefore => "Not Before"
  | .expires => "Expiration Time"

/-- Why a token is not accepted. -/
inductive Rejection where
  | tooFewSegments
  | badSegment (segment : Segment)
  | unreadable (segment : Segment) (fault : Json.OctetFault)
  | notObject (segment : Segment)
  | keyIdNotText
  | badCritical (fault : CriticalFault)
  | payloadNotEmpty
  | payloadNotCritical
  | detachedPayload
  | algorithmMissing
  | algorithmNotAllowed
  | badSignature
  | claimMissing (key : String)
  | timeNotWhole (claim : TimeClaim)
  | notYetValid (claim : TimeClaim)
  | expired
  | issuerNotText
  | wrongIssuer
  | malformedAudience
  | wrongAudience
  | subjectNotText
  | tokenIdNotText
  | wrongUse
  deriving Repr

/-- The wording of a fault in the list of critical extensions. -/
def CriticalFault.message : CriticalFault → Text
  | .notList => "Invalid 'crit' header: must be a non-empty list"
  | .notTexts => "Invalid 'crit' header: values must be strings"
  | .unsupported extension => "Unsupported critical extension: " ++ extension
  | .absent extension => "Critical extension '" ++ extension ++ "' is missing from headers"

/-- The report of a rejection. -/
def Rejection.message : Rejection → Text
  | .tooFewSegments => "Not enough segments"
  | .badSegment segment => "Invalid " ++ segment.name ++ " padding"
  | .unreadable segment fault => "Invalid " ++ segment.name ++ " string: " ++ fault.message
  | .notObject segment => "Invalid " ++ segment.name ++ " string: must be a json object"
  | .keyIdNotText => "Key ID header parameter must be a string"
  | .badCritical fault => fault.message
  | .payloadNotEmpty => "Payload segment must be empty when 'b64' is false."
  | .payloadNotCritical => "The 'b64' header parameter requires 'b64' to be listed in 'crit'."
  | .detachedPayload =>
    "It is required that you pass in a value for the \"detached_payload\" argument to decode a "
      ++ "message having the b64 header set to false."
  | .algorithmMissing => "Algorithm not specified"
  | .algorithmNotAllowed => "The specified alg value is not allowed"
  | .badSignature => "Signature verification failed"
  | .claimMissing key => "Token is missing the \"" ++ key ++ "\" claim"
  | .timeNotWhole claim => claim.title ++ " claim (" ++ claim.key ++ ") must be an integer."
  | .notYetValid claim => "The token is not yet valid (" ++ claim.key ++ ")"
  | .expired => "Signature has expired"
  | .issuerNotText => "Payload Issuer (iss) must be a string"
  | .wrongIssuer => "Invalid issuer"
  | .malformedAudience => "Invalid claim format in token"
  | .wrongAudience => "Audience doesn't match"
  | .subjectNotText => "Subject must be a string"
  | .tokenIdNotText => "JWT ID must be a string"
  | .wrongUse => "wrong token type"

end SurveyDesk.Session
