import SurveyDesk.Json.Fault
import SurveyDesk.Pattern.Fault

/-!
Why an operation on documents fails. The first three causes come of values that are not of the
kind that the operation expects; the others are refusals of its own.
-/
namespace SurveyDesk

/-- The code that a refusal is reported with. -/
inductive RefusalCode where
  | badParameters
  | notLoggedIn
  | noPermission
  | notFound
  | serverError
  deriving DecidableEq, Repr

/-- The number of a code. -/
def RefusalCode.number : RefusalCode → Nat
  | .badParameters => 400
  | .notLoggedIn => 401
  | .noPermission => 403
  | .notFound => 404
  | .serverError => 500

/-- Why an operation fails. `missingEntry` is an entry that an object does not have,
`missingFeature` an operation that values of a kind do not have, `wrongKind` a value that an
operation cannot be applied to, and `tooDeep` a value that is nested too deeply to be copied. -/
inductive Fault where
  | missingEntry
  | missingFeature
  | wrongKind
  | badPattern (pattern : Value) (fault : Pattern.Fault)
  | documentWithoutId
  | notPair (place length : Nat)
  | tooDeep
  | directory (path : List Char)
  | nameTooLong (path : List Char)
  | unknownHistoryType (value : Value)
  | refused (code : RefusalCode) (message : Text)
  deriving Repr

/-- The wording for a text with a surrogate, which has no octets: it names the first run of
surrogates. -/
def encodingMessage (text : List Point) : String :=
  let isChar := fun point : Point => point.isA fun _ => true
  let start := (text.takeWhile isChar).length
  let run := (text.drop start).takeWhile fun point => !isChar point
  let what := match run with
    | [point] => "character '" ++ String.ofList (Literal.escaped '\'' point) ++ "' in position "
      ++ toString start
    | _ => "characters in position " ++ toString start ++ "-" ++ toString (start + run.length - 1)
  "'utf-8' codec can't encode " ++ what ++ ": surrogates not allowed"

/-- The wording of a bad pattern's report, where it is one. -/
def badPatternMessage? (pattern : Value) : Pattern.Fault → Option Text
  | .malformed cause position =>
    some ("bad regular expression " ++ Text.ofChars pattern.literal ++ ": "
      ++ cause.report position pattern.asText)
  | .repetitionTooLarge => some "the repetition number is too large"
  | .numeralTooLong digits => some (Json.Fault.message [] (.numeralTooLong digits))
  | .codePointTooLarge => some "Python int too large to convert to C int"
  | .clashingGlobalFlags => some "ASCII and UNICODE flags are incompatible"
  | .lookbehindTooWide => some "invalid SRE code"
  | .nameWithSurrogate name => some (encodingMessage name)
  | .nestedTooDeeply => none
  | .groupReversed =>
    some "The span of capturing group is wrong, please report a bug for the re module."

/-- The message of a fault, for those that have one. -/
def Fault.message? : Fault → Option Text
  | .missingEntry | .missingFeature | .wrongKind | .tooDeep => none
  | .badPattern pattern fault => badPatternMessage? pattern fault
  | .documentWithoutId => some "document requires an _id"
  | .notPair place length => some ("dictionary update sequence element #" ++ toString place
    ++ " has length " ++ toString length ++ "; 2 is required")
  | .directory path =>
    some ("[Errno 21] Is a directory: " ++ Text.ofChars (Literal.quoted (path.map .char)))
  | .nameTooLong path =>
    some ("[Errno 36] File name too long: " ++ Text.ofChars (Literal.quoted (path.map .char)))
  | .unknownHistoryType value =>
    some (Text.ofChars value.literal ++ " is not a valid HistoryType")
  | .refused _ message => some message

end SurveyDesk
