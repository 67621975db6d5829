import SurveyDesk.Fault

/-!
Who calls: the identity that verified token claims stand for.
-/
namespace SurveyDesk

/-- The user on whose behalf an operation is made. -/
structure Caller where
  id : Text
  name : Text
  deriving DecidableEq, Repr, Inhabited

namespace Caller

/-- The caller as a document names it. -/
def toValue (caller : Caller) : Value :=
  .object [("_id", .str caller.id), ("username", .str caller.name)]

/-- The caller whom claims name as their subject; without a name of its own the subject is the
name too. -/
def ofClaims : Value → Except Fault Caller
  | .object claims =>
    let subject := (Entries.get? claims "sub").getD .null
    if subject.isTruthy then
      let name := (Entries.get? claims "username").getD .null
      .ok ⟨subject.asText, (if name.isTruthy then name else subject).asText⟩
    else .error (.refused .notLoggedIn "login required")
  | _ => .error .missingFeature

end Caller
end SurveyDesk
