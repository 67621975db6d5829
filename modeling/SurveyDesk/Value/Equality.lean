import SurveyDesk.Value.Basic

/-!
When two values count as the same. Numbers are compared by their places on the number line, so
one, one point zero and true are equal; lists item by item; objects entry by entry in any order.
The undefined number differs from itself when it is compared directly, but a list or an object
that holds it equals its copies.
-/
namespace SurveyDesk.Value

/-- Whether two values are equal where they stand inside a list or an object. -/
def alike : Value → Value → Bool
  | .null, .null => true
  | .str a, .str b => a = b
  | .float .nan, .float .nan => true
  | .list as, .list bs => itemsAlike as bs
  | .object as, .object bs => as.length = bs.length && entriesAlike as bs
  | a, b =>
    match a.place?, b.place? with
    | some p, some q => p.order q = .eq
    | _, _ => false
where
  /-- Lists of one length whose items are equal in order. -/
  itemsAlike : List Value → List Value → Bool
    | [], [] => true
    | a :: as, b :: bs => alike a b && itemsAlike as bs
    | _, _ => false
  /-- Whether every entry has an equal under its key on the other side. -/
  entriesAlike : List (Text × Value) → Entries → Bool
    | [], _ => true
    | (key, a) :: as, bs =>
      (match bs.get? key with
      | some b => alike a b
      | none => false) && entriesAlike as bs

/-- Whether two values are equal. -/
def equals : Value → Value → Bool
  | .float .nan, _ => false
  | a, b => alike a b

end SurveyDesk.Value
