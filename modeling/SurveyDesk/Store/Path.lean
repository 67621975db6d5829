import SurveyDesk.Text.Basic
import SurveyDesk.Value.Basic

/-!
Dotted paths. A path leads from a document through objects, one key after another; it leads
nowhere where a key is missing or a value on the way is no object.
-/
namespace SurveyDesk

/-- The keys of a dotted path. -/
def Path.parts (path : Text) : List Text := (Text.partsAt (.char '.') path.points).map .ofPoints

/-- The value that keys lead to, one after another. -/
def Value.follow? : Value → List Text → Option Value
  | value, [] => some value
  | value, key :: rest => (value.get? key).bind (·.follow? rest)

/-- The value that a dotted path leads to. -/
def Value.at? (document : Value) (path : Text) : Option Value :=
  document.follow? (Path.parts path)

end SurveyDesk
