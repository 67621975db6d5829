import SurveyDesk.Json.Reader
import SurveyDesk.Text.Percent

/-!
Values in query parameters: a JSON text that may be percent-encoded.
-/
namespace SurveyDesk.QueryParameter

/-- The value of a query parameter, or why it has none and the text that was read. -/
def decode (raw : Text) : Except (Json.Fault × List Point) Value :=
  let text := Percent.decode raw.points
  match Json.read text with
  | .ok value => .ok value
  | .error fault => .error (fault, text)

end SurveyDesk.QueryParameter
