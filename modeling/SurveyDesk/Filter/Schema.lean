import SurveyDesk.Filter.Violation

/-!
The shape of a filter and of a sort list. A filter is a list of items; an item is an object with a
list of conditions and perhaps a text as its comparator; a condition is an object with a text as
its field, perhaps a text as its comparator, and perhaps a value that is a scalar or a list of
items again. A sort list is a list of objects with a text as their field. Other keys do not matter.
-/
namespace SurveyDesk.Filter

/-- The violation of a value that is not of a kind. -/
def notOfKind (name : String) (path : List Step) (value : Value) : List Violation :=
  [⟨path, value, .kind name⟩]

/-- The violation of an object that lacks a key. -/
def lacking (key : String) (path : List Step) (entries : Entries) : List Violation :=
  if entries.has key then [] else [⟨path, .object entries, .required key⟩]

/-- The violation of an entry that is no text; an entry that is missing is none. -/
def notText (key : String) (path : List Step) (entries : Entries) : List Violation :=
  match entries.get? key with
  | none | some (.str _) => []
  | some value => notOfKind "string" (path ++ [.key key]) value

mutual

/-- What is wrong with a value as a list of items. -/
def itemsViolations (path : List Step) : Value → List Violation
  | .list items => itemListViolations path 0 items
  | value => notOfKind "array" path value

/-- What is wrong with items, of which the first has this place. -/
def itemListViolations (path : List Step) : Nat → List Value → List Violation
  | _, [] => []
  | place, item :: rest =>
    itemViolations (path ++ [.index place]) item ++ itemListViolations path (place + 1) rest

/-- What is wrong with an item. -/
def itemViolations (path : List Step) : Value → List Violation
  | .object entries =>
    notText comparatorKey path entries ++ conditionsInViolations path entries
      ++ lacking conditionKey path entries
  | value => notOfKind "object" path value

/-- What is wrong with the conditions among the entries of an item. -/
def conditionsInViolations (path : List Step) : List (Text × Value) → List Violation
  | [] => []
  | (key, value) :: rest =>
    if key = conditionKey then conditionsViolations (path ++ [.key conditionKey]) value
    else conditionsInViolations path rest

/-- What is wrong with a value as a list of conditions. -/
def conditionsViolations (path : List Step) : Value → List Violation
  | .list items => conditionListViolations path 0 items
  | value => notOfKind "array" path value

/-- What is wrong with conditions, of which the first has this place. -/
def conditionListViolations (path : List Step) : Nat → List Value → List Violation
  | _, [] => []
  | place, condition :: rest =>
    conditionViolations (path ++ [.index place]) condition
      ++ conditionListViolations path (place + 1) rest

/-- What is wrong with a condition. -/
def conditionViolations (path : List Step) : Value → List Violation
  | .object entries =>
    notText fieldKey path entries ++ notText comparatorKey path entries
      ++ contentInViolations path entries ++ lacking fieldKey path entries
  | value => notOfKind "object" path value

/-- What is wrong with what is compared with, among the entries of a condition. -/
def contentInViolations (path : List Step) : List (Text × Value) → List Violation
  | [] => []
  | (key, value) :: rest =>
    if key = valueKey then contentViolations (path ++ [.key valueKey]) value
    else contentInViolations path rest

/-- What is wrong with what is compared with: an object, or a list that is no list of items. -/
def contentViolations (path : List Step) : Value → List Violation
  | .list items =>
    if (itemListViolations [] 0 items).isEmpty then [] else [⟨path, .list items, .someForm⟩]
  | .object entries => [⟨path, .object entries, .someForm⟩]
  | _ => []

end

/-- What is wrong with a value as a filter. -/
def violations (value : Value) : List Violation := itemsViolations [] value

/-- What is wrong with sort requests, of which the first has this place. -/
def requestListViolations : Nat → List Value → List Violation
  | _, [] => []
  | place, request :: rest =>
    (match request with
    | .object entries =>
      notText fieldKey [.index place] entries ++ lacking fieldKey [.index place] entries
    | value => notOfKind "object" [.index place] value)
      ++ requestListViolations (place + 1) rest

/-- What is wrong with a value as a sort list. -/
def sortViolations : Value → List Violation
  | .list requests => requestListViolations 0 requests
  | value => notOfKind "array" [] value

mutual

/-- How many levels of items a list of items has. -/
def itemLevels : List Value → Nat
  | [] => 1
  | item :: rest => max (levelsIn item) (itemLevels rest)

/-- How many levels of items there are down to what an item's conditions are compared with. -/
def levelsIn : Value → Nat
  | .object entries => levelsOfConditions entries
  | _ => 1

/-- The levels in the conditions among the entries of an item. -/
def levelsOfConditions : List (Text × Value) → Nat
  | [] => 1
  | (key, value) :: rest =>
    if key = conditionKey then
      match value with
      | .list conditions => conditionLevels conditions
      | _ => 1
    else levelsOfConditions rest

/-- The levels in conditions. -/
def conditionLevels : List Value → Nat
  | [] => 1
  | condition :: rest =>
    max (match condition with
      | .object entries => levelsOfContent entries
      | _ => 1) (conditionLevels rest)

/-- The levels in what a condition compares with. -/
def levelsOfContent : List (Text × Value) → Nat
  | [] => 1
  | (key, value) :: rest =>
    if key = valueKey then
      match value with
      | .list items => itemLevels items + 1
      | _ => 1
    else levelsOfContent rest

end

/-- How many levels of items a value has where it is read as a filter. -/
def levels : Value → Nat
  | .list items => itemLevels items
  | _ => 1

/-- The most levels of items that a filter is checked down to. -/
def levelLimit : Nat := 64

end SurveyDesk.Filter
