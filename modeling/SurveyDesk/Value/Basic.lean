import SurveyDesk.Binary64
import SurveyDesk.Text.Basic

/-!
The values that documents, filters and tokens are made of. An object keeps its keys in the order
in which they first arrived; giving a key again replaces its value and leaves it in its place.
-/
namespace SurveyDesk

/-- A document value. -/
inductive Value where
  | null
  | bool (flag : Bool)
  | int (number : Int)
  | float (number : Binary64)
  | str (text : Text)
  | list (items : List Value)
  | object (entries : List (Text × Value))
  deriving Repr, Inhabited

/-- The entries of an object, in order of first arrival. -/
abbrev Entries := List (Text × Value)

namespace Entries

/-- The value under a key. -/
def get? : Entries → Text → Option Value
  | [], _ => none
  | (key, value) :: rest, wanted => if key = wanted then some value else get? rest wanted

/-- Whether a key is present. -/
def has (entries : Entries) (wanted : Text) : Bool := (get? entries wanted).isSome

/-- The keys in order. -/
def keys (entries : Entries) : List Text := entries.map Prod.fst

/-- The entries with a key set: in its place if it is there, at the end if it is new. -/
def put : Entries → Text → Value → Entries
  | [], key, value => [(key, value)]
  | (other, old) :: rest, key, value =>
    if other = key then (key, value) :: rest else (other, old) :: put rest key value

/-- The entries with all changes put in, in order. -/
def putAll (entries changes : Entries) : Entries :=
  changes.foldl (fun sum change => sum.put change.1 change.2) entries

/-- Entries in which a repeated key has its first place and its last value. -/
def ofPairs (pairs : List (Text × Value)) : Entries := putAll [] pairs

end Entries

namespace Value

/-- The entry of an object under a key; other values have none. -/
def get? : Value → Text → Option Value
  | .object entries, key => Entries.get? entries key
  | _, _ => none

/-- Whether a value counts as something: not null, false, zero or empty. -/
def isTruthy : Value → Bool
  | .null => false
  | .bool flag => flag
  | .int number => number ≠ 0
  | .float number => !number.isZero
  | .str text => text ≠ ""
  | .list items => !items.isEmpty
  | .object entries => !entries.isEmpty

/-- The place of a number on the number line; a truth value counts as one or zero. -/
def place? : Value → Option Binary64.Place
  | .bool flag => some (.ofInt (if flag then 1 else 0))
  | .int number => some (.ofInt number)
  | .float number => number.place?
  | _ => none

end Value
end SurveyDesk
