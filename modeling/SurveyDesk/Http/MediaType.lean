import SurveyDesk.Text.Basic
import SurveyDesk.Unicode.Blank

/-!
Media types, which say what the body of a request is written in.
-/
namespace SurveyDesk.Http

/-- The media type in a header, without its parameters and in small letters. -/
def mediaType (header : List Char) : List Char :=
  (Unicode.trimmed (header.takeWhile (· ≠ ';'))).map Char.toLower

/-- Whether a header declares JSON: an application's type that is JSON or ends in `+json`. -/
def declaresJson (header : List Char) : Bool :=
  match Text.partsAt '/' (mediaType header) with
  | [main, kind] =>
    main = "application".toList && (kind = "json".toList || "+json".toList.isSuffixOf kind)
  | _ => false

end SurveyDesk.Http
