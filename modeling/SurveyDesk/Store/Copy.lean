import SurveyDesk.Value.Basic

/-!
Copying. What a client hands in is copied when it is stored, and lists of documents are copied when
they are read. A copy is made by calls inside one another, level by level, and there is room for so
many calls only.
-/
namespace SurveyDesk

/-- How many calls inside one another it takes to copy a value: two for every level, two for a value
without parts, and one for parts of which there are none. -/
def copyCalls : Value → Nat
  | .list items => itemsCalls items + 2
  | .object entries => entriesCalls entries + 2
  | _ => 2
where
  /-- The calls for items. -/
  itemsCalls : List Value → Nat
    | [] => 1
    | item :: rest => max (copyCalls item) (itemsCalls rest)
  /-- The calls for the values of entries. Their keys never take more. -/
  entriesCalls : List (Text × Value) → Nat
    | [] => 1
    | (_, value) :: rest => max (copyCalls value) (entriesCalls rest)

/-- How many calls there is room for inside that of a route. -/
def callRoom : Nat := 995

/-- Whether there is room to copy a value from within so many calls. -/
def Copyable (calls : Nat) (value : Value) : Prop := calls + copyCalls value ≤ callRoom

instance (calls : Nat) (value : Value) : Decidable (Copyable calls value) :=
  inferInstanceAs (Decidable (_ ≤ _))

end SurveyDesk
