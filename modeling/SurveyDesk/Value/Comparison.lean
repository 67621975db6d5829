import SurveyDesk.Value.Equality

/-!
The order of values. Numbers are ordered along the number line, texts by code points, lists by
their first difference. Other pairs have no order unless they are equal.
-/
namespace SurveyDesk.Value

/-- Whether one value comes before another, or nothing where the two cannot be compared. -/
def before? : Value → Value → Option Bool
  | .str a, .str b => some (a.before b)
  | .list as, .list bs => itemsBefore? as bs
  | a, b =>
    match a, b with
    | .float .nan, b => if isNumber b then some false else none
    | a, .float .nan => if isNumber a then some false else none
    | a, b =>
      match a.place?, b.place? with
      | some p, some q => some (p.order q = .lt)
      | _, _ => none
where
  /-- Truth values, whole numbers and doubles can be compared with one another. -/
  isNumber : Value → Bool
    | .bool _ | .int _ | .float _ => true
    | _ => false
  /-- The first items that differ decide; a list comes before its extensions. -/
  itemsBefore? : List Value → List Value → Option Bool
    | [], [] => some false
    | [], _ :: _ => some true
    | _ :: _, [] => some false
    | a :: as, b :: bs => if a.alike b then itemsBefore? as bs else before? a b

end SurveyDesk.Value
