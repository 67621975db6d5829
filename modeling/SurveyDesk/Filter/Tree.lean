import SurveyDesk.Fault

/-!
Filter trees. A filter is a list of items, an item a group of conditions that all have to hold,
and a condition a field with a value or, once more, with a list of items. `Item.ofValue` reads an
item from its wire form and `Item.toValue` writes it back; both take any value for a field or a
comparator, because only a filter that was checked first promises texts.
-/
namespace SurveyDesk.Filter

/-- How an item joins the rest of its list: it must hold like the others, or it is one of several
alternatives. -/
inductive Combinator where
  | every
  | either
  deriving DecidableEq, Repr

/-- The mark of an item that is an alternative. -/
def orMark : Text := "$or"

/-- The combinator that a mark stands for; every mark but one stands for the usual way. -/
def Combinator.ofMark : Option Value → Combinator
  | some (.str mark) => if mark = orMark then .either else .every
  | _ => .every

/-- The key of a condition's field. -/
def fieldKey : String := "field"

/-- The key of a comparator, or of an item's mark. -/
def comparatorKey : String := "comparator"

/-- The key of an item's conditions. -/
def conditionKey : String := "condition"

/-- The key of what a condition compares with. -/
def valueKey : String := "value"

mutual

/-- A group of conditions with its combinator. -/
inductive Item where
  | group (combinator : Combinator) (conditions : List Condition)

/-- A field, a comparator, which is null if there is none, and what is compared with. -/
inductive Condition where
  | compare (field comparator : Value) (content : Content)

/-- What a field is compared with. -/
inductive Content where
  | scalar (value : Value)
  | nested (items : List Item)

end

deriving instance Repr for Item, Condition, Content

/-- The combinator of an item. -/
def Item.combinator : Item → Combinator
  | .group combinator _ => combinator

/-- The conditions of an item. -/
def Item.conditions : Item → List Condition
  | .group _ conditions => conditions

/-- The field of a condition. -/
def Condition.field : Condition → Value
  | .compare field _ _ => field

/-- The comparator of a condition. -/
def Condition.comparator : Condition → Value
  | .compare _ comparator _ => comparator

/-- What a condition compares with. -/
def Condition.content : Condition → Content
  | .compare _ _ content => content

mutual

/-- The item that a value stands for. -/
def Item.ofValue : Value → Except Fault Item
  | .object entries => do
    return .group (.ofMark (Entries.get? entries comparatorKey)) (← conditionsIn entries)
  | _ => .error .missingFeature

/-- The conditions among the entries of an item, none if there is no entry for them. -/
def conditionsIn : List (Text × Value) → Except Fault (List Condition)
  | [] => .ok []
  | (key, value) :: rest =>
    if key = conditionKey then conditionsOf value else conditionsIn rest

/-- The conditions that a value holds. The parts of a text and the keys of an object are no
conditions. -/
def conditionsOf : Value → Except Fault (List Condition)
  | .list items => conditionList items
  | .str text => if text = "" then .ok [] else .error .missingFeature
  | .object entries => if entries.isEmpty then .ok [] else .error .missingFeature
  | _ => .error .wrongKind

/-- The conditions that several values stand for. -/
def conditionList : List Value → Except Fault (List Condition)
  | [] => .ok []
  | value :: rest => do return (← Condition.ofValue value) :: (← conditionList rest)

/-- The condition that a value stands for. -/
def Condition.ofValue : Value → Except Fault Condition
  | .object entries => do
    let content ← contentIn entries
    match Entries.get? entries fieldKey with
    | some field =>
      return .compare field ((Entries.get? entries comparatorKey).getD .null) content
    | none => throw .missingEntry
  | _ => .error .missingFeature

/-- What is compared with, among the entries of a condition; null if there is no entry for it. -/
def contentIn : List (Text × Value) → Except Fault Content
  | [] => .ok (.scalar .null)
  | (key, value) :: rest => if key = valueKey then Content.ofValue value else contentIn rest

/-- What a value stands for where it is compared with: a list holds items. -/
def Content.ofValue : Value → Except Fault Content
  | .list items => do return .nested (← itemList items)
  | value => .ok (.scalar value)

/-- The items that several values stand for. -/
def itemList : List Value → Except Fault (List Item)
  | [] => .ok []
  | value :: rest => do return (← Item.ofValue value) :: (← itemList rest)

end

/-- The items that a value holds. -/
def itemsOf : Value → Except Fault (List Item)
  | .list items => itemList items
  | .str text => if text = "" then .ok [] else .error .missingFeature
  | .object entries => if entries.isEmpty then .ok [] else .error .missingFeature
  | _ => .error .wrongKind

mutual

/-- The wire form of an item. -/
def Item.toValue : Item → Value
  | .group combinator conditions =>
    .object ((conditionKey, .list (conditionValues conditions)) ::
      (match combinator with
      | .every => []
      | .either => [(comparatorKey, .str orMark)]))

/-- The wire forms of conditions. -/
def conditionValues : List Condition → List Value
  | [] => []
  | condition :: rest => condition.toValue :: conditionValues rest

/-- The wire form of a condition; a comparator that is not there is left out. -/
def Condition.toValue : Condition → Value
  | .compare field comparator content =>
    .object ((fieldKey, field) ::
      ((match comparator with
        | .null => ([] : Entries)
        | comparator => [(comparatorKey, comparator)]) ++
          ([(valueKey, content.toValue)] : Entries)))

/-- The wire form of what is compared with. -/
def Content.toValue : Content → Value
  | .scalar value => value
  | .nested items => .list (itemValues items)

/-- The wire forms of items. -/
def itemValues : List Item → List Value
  | [] => []
  | item :: rest => item.toValue :: itemValues rest

end

end SurveyDesk.Filter
