import SurveyDesk.Filter.Tree

/-!
Limits on filters: how many levels of items there may be and how many conditions in all. The walk
looks at a list of items first and at the lists nested in it afterwards, the last of them first.
-/
namespace SurveyDesk.Query

open SurveyDesk.Filter (Item Condition Content)

/-- The most levels of items and the most conditions. -/
structure Limits where
  levels : Int
  conditions : Int
  deriving DecidableEq, Repr

/-- The limits that hold where no others are given. -/
def Limits.standard : Limits := ⟨8, 200⟩

/-- Why a filter is not compiled: it is beyond a limit, a group names a field twice where that is
not allowed, or a field is of a kind that cannot be looked up. -/
inductive Refusal where
  | tooManyLevels (limit : Int)
  | tooManyConditions (limit : Int)
  | repeatedField (field : Text)
  | fault (fault : Fault)
  deriving Repr

/-- The number of conditions in items, those nested in them not counted. -/
def conditionCount (items : List Item) : Nat :=
  items.foldl (fun sum item => sum + item.conditions.length) 0

/-- Counts the conditions of a list of items on a level, on top of those counted so far. -/
def countList (limits : Limits) (level : Nat) (counted : Nat) (items : List Item) :
    Except Refusal Nat :=
  let sum := counted + conditionCount items
  if limits.levels < level then .error (.tooManyLevels limits.levels)
  else if counted < sum ∧ limits.conditions < sum then
    .error (.tooManyConditions limits.conditions)
  else .ok sum

mutual

/-- Walks through the lists nested in items, those of the last item first. -/
def walkItems (limits : Limits) (level counted : Nat) : List Item → Except Refusal Nat
  | [] => .ok counted
  | .group _ conditions :: rest => do
    walkConditions limits level (← walkItems limits level counted rest) conditions

/-- Walks through the lists nested in conditions, that of the last condition first. -/
def walkConditions (limits : Limits) (level counted : Nat) :
    List Condition → Except Refusal Nat
  | [] => .ok counted
  | .compare _ _ content :: rest => do
    walkContent limits level (← walkConditions limits level counted rest) content

/-- Walks through a nested list, which is one level further down. -/
def walkContent (limits : Limits) (level counted : Nat) : Content → Except Refusal Nat
  | .scalar _ => .ok counted
  | .nested items => do
    walkItems limits (level + 1) (← countList limits (level + 1) counted items) items

end

/-- Refuses a filter that is beyond a limit. -/
def Limits.check (limits : Limits) (items : List Item) : Except Refusal Unit := do
  let counted ← countList limits 1 0 items
  let _ ← walkItems limits 1 counted items

end SurveyDesk.Query
