import SurveyDesk.Value.Equality

/-!
Tables whose keys are values. Equal keys are one key, so one, one point zero and true share an
entry; it keeps the key and the place that it was first given.
-/
namespace SurveyDesk

/-- A table from values, in order of first arrival. -/
abbrev Keyed (α : Type) := List (Value × α)

namespace Keyed

/-- What is under a key. -/
def get? {α : Type} (wanted : Value) : Keyed α → Option α
  | [] => none
  | (key, content) :: rest => if key.alike wanted then some content else get? wanted rest

/-- The table with something under a key. -/
def put {α : Type} (wanted : Value) (content : α) : Keyed α → Keyed α
  | [] => [(wanted, content)]
  | (key, old) :: rest =>
    if key.alike wanted then (key, content) :: rest else (key, old) :: put wanted content rest

/-- The table with another put over it, in order. -/
def putAll {α : Type} (table changes : Keyed α) : Keyed α :=
  changes.foldl (fun sum change => sum.put change.1 change.2) table

/-- What is under the keys, in order. -/
def contents {α : Type} (table : Keyed α) : List α := table.map Prod.snd

end Keyed

/-- Whether a value can be a key: lists and objects cannot. -/
def Value.isKey : Value → Bool
  | .list _ | .object _ => false
  | _ => true

end SurveyDesk
