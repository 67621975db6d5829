import SurveyDesk.Filter.Schema
import SurveyDesk.Json.Reader

/-!
What checking a filter takes to write out. The report of a violation shows the value that is at
fault. A list that a condition compares with is shown as well, since it is reported not to be of
each of the other forms before it is looked at as a list of items; these reports are thrown away if
it is one. What is nested too deeply cannot be written out, and then the check does not end.
-/
namespace SurveyDesk.Filter

/-- An entry that is no text, at a level of items; an entry that is missing is nothing. -/
def textShown (key : String) (level : Nat) (entries : Entries) : List (Nat × Value) :=
  match entries.get? key with
  | none | some (.str _) => []
  | some value => [(level, value)]

mutual

/-- What is written out while items are checked, each part with the level of items it is at. -/
def itemListShown (level : Nat) : List Value → List (Nat × Value)
  | [] => []
  | item :: rest => itemShown level item ++ itemListShown level rest

/-- What is written out while an item is checked. -/
def itemShown (level : Nat) : Value → List (Nat × Value)
  | .object entries => textShown comparatorKey level entries ++ conditionsInShown level entries
  | value => [(level, value)]

/-- What is written out while the conditions among the entries of an item are checked. -/
def conditionsInShown (level : Nat) : List (Text × Value) → List (Nat × Value)
  | [] => []
  | (key, value) :: rest =>
    if key = conditionKey then conditionsShown level value else conditionsInShown level rest

/-- What is written out while a value is checked as a list of conditions. -/
def conditionsShown (level : Nat) : Value → List (Nat × Value)
  | .list conditions => conditionListShown level conditions
  | value => [(level, value)]

/-- What is written out while conditions are checked. -/
def conditionListShown (level : Nat) : List Value → List (Nat × Value)
  | [] => []
  | condition :: rest => conditionShown level condition ++ conditionListShown level rest

/-- What is written out while a condition is checked. -/
def conditionShown (level : Nat) : Value → List (Nat × Value)
  | .object entries =>
    textShown fieldKey level entries ++ textShown comparatorKey level entries
      ++ contentInShown level entries
  | value => [(level, value)]

/-- What is written out while that is checked which a condition compares with, among its entries. -/
def contentInShown (level : Nat) : List (Text × Value) → List (Nat × Value)
  | [] => []
  | (key, value) :: rest =>
    if key = valueKey then contentShown level value else contentInShown level rest

/-- What is written out while that is checked which a condition compares with. -/
def contentShown (level : Nat) : Value → List (Nat × Value)
  | .list items => (level, .list items) :: itemListShown (level + 1) items
  | .object entries => [(level, .object entries)]
  | _ => []

end

/-- What is written out while a value is checked as a filter. -/
def shown : Value → List (Nat × Value)
  | .list items => itemListShown 0 items
  | value => [(0, value)]

/-- How deeply nested a value can be written out at a level of items: the deeper the check is in the
levels, the less is left. -/
def roomAt (level : Nat) : Nat := Json.nestingLimit - 14 * level

/-- Whether checking a value as a filter takes to write out a part that is nested too deeply. -/
def overlong (value : Value) : Bool :=
  (shown value).any fun (level, part) => roomAt level < Json.nesting part

end SurveyDesk.Filter
