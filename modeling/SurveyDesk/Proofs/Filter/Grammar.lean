import SurveyDesk.Proofs.Filter.Shape
import SurveyDesk.Proofs.Value.Entries

/-! The grammar of filters, said without the checks that look for violations. A value has no
violations exactly if it is a list of items by this grammar, so what is looked for is all that can
be wrong with a filter, and nothing else is. -/
namespace SurveyDesk.Filter

mutual

/-- A list of items. -/
inductive IsItems : Value → Prop where
  | list {values : List Value} (each : ∀ value ∈ values, IsItem value) : IsItems (.list values)

/-- An object with a list of conditions and perhaps a text as its comparator. -/
inductive IsItem : Value → Prop where
  | object {entries : Entries} {conditions : Value}
    (comparator : ∀ value, entries.get? comparatorKey = some value → isText value)
    (found : entries.get? conditionKey = some conditions) (listed : IsConditions conditions) :
    IsItem (.object entries)

/-- A list of conditions. -/
inductive IsConditions : Value → Prop where
  | list {values : List Value} (each : ∀ value ∈ values, IsCondition value) :
    IsConditions (.list values)

/-- An object with a text as its field, perhaps a text as its comparator, and perhaps something
that is compared with. -/
inductive IsCondition : Value → Prop where
  | object {entries : Entries} {field : Text}
    (named : entries.get? fieldKey = some (.str field))
    (comparator : ∀ value, entries.get? comparatorKey = some value → isText value)
    (content : ∀ value, entries.get? valueKey = some value → IsContent value) :
    IsCondition (.object entries)

/-- A text, a number, a truth value, null, or a list of items again. -/
inductive IsContent : Value → Prop where
  | scalar {value : Value} (plain : isScalar value) : IsContent value
  | items {value : Value} (nested : IsItems value) : IsContent value

end

/-! ## The entries of an object -/

theorem notText_eq_nil (key : String) (path : List Step) (entries : Entries) :
    notText key path entries = [] ↔ ∀ value, entries.get? key = some value → isText value := by
  constructor
  · intro clean value found
    exact notText_nil clean found
  · intro texts
    unfold notText
    cases found : entries.get? key with
    | none => rfl
    | some value =>
      have text := texts value found
      cases value <;> first | rfl | cases text

theorem lacking_eq_nil (key : String) (path : List Step) (entries : Entries) :
    lacking key path entries = [] ↔ ∃ value, entries.get? key = some value := by
  unfold lacking Entries.has
  cases entries.get? key <;> simp

/-! ## No violations -/

mutual

theorem itemListViolations_eq_nil (path : List Step) (place : Nat) : ∀ values : List Value,
    itemListViolations path place values = [] ↔ ∀ value ∈ values, IsItem value
  | [] => by simp [itemListViolations]
  | value :: rest => by
    rw [itemListViolations, List.append_eq_nil_iff, List.forall_mem_cons,
      itemViolations_eq_nil _ value, itemListViolations_eq_nil path (place + 1) rest]

theorem itemViolations_eq_nil (path : List Step) : ∀ value : Value,
    itemViolations path value = [] ↔ IsItem value
  | .object entries => by
    rw [itemViolations, List.append_eq_nil_iff, List.append_eq_nil_iff, notText_eq_nil,
      conditionsInViolations_eq_nil path entries, lacking_eq_nil]
    constructor
    · rintro ⟨⟨comparator, listed⟩, conditions, found⟩
      exact .object comparator found (listed conditions found)
    · rintro ⟨comparator, found, listed⟩
      refine ⟨⟨comparator, fun value here => ?_⟩, _, found⟩
      cases found.symm.trans here
      exact listed
  | .null | .bool _ | .int _ | .float _ | .str _ | .list _ => by
    constructor <;> exact nofun

theorem conditionsInViolations_eq_nil (path : List Step) : ∀ entries : List (Text × Value),
    conditionsInViolations path entries = [] ↔
      ∀ value, Entries.get? entries conditionKey = some value → IsConditions value
  | [] => by simp [conditionsInViolations]
  | (key, value) :: rest => by
    rw [conditionsInViolations, Entries.get?_cons]
    split
    · rw [conditionsViolations_eq_nil _ value]
      simp
    · exact conditionsInViolations_eq_nil path rest

theorem conditionsViolations_eq_nil (path : List Step) : ∀ value : Value,
    conditionsViolations path value = [] ↔ IsConditions value
  | .list values => by
    rw [conditionsViolations, conditionListViolations_eq_nil path 0 values]
    constructor
    · exact .list
    · rintro ⟨each⟩
      exact each
  | .null | .bool _ | .int _ | .float _ | .str _ | .object _ => by
    constructor <;> exact nofun

theorem conditionListViolations_eq_nil (path : List Step) (place : Nat) : ∀ values : List Value,
    conditionListViolations path place values = [] ↔ ∀ value ∈ values, IsCondition value
  | [] => by simp [conditionListViolations]
  | value :: rest => by
    rw [conditionListViolations, List.append_eq_nil_iff, List.forall_mem_cons,
      conditionViolations_eq_nil _ value, conditionListViolations_eq_nil path (place + 1) rest]

theorem conditionViolations_eq_nil (path : List Step) : ∀ value : Value,
    conditionViolations path value = [] ↔ IsCondition value
  | .object entries => by
    rw [conditionViolations, List.append_eq_nil_iff, List.append_eq_nil_iff,
      List.append_eq_nil_iff, notText_eq_nil, notText_eq_nil,
      contentInViolations_eq_nil path entries, lacking_eq_nil]
    constructor
    · rintro ⟨⟨⟨texts, comparator⟩, content⟩, field, found⟩
      have text := texts field found
      cases field with
      | str name => exact .object found comparator content
      | _ => cases text
    · rintro ⟨named, comparator, content⟩
      refine ⟨⟨⟨fun value here => ?_, comparator⟩, content⟩, _, named⟩
      cases named.symm.trans here
      rfl
  | .null | .bool _ | .int _ | .float _ | .str _ | .list _ => by
    constructor <;> exact nofun

theorem contentInViolations_eq_nil (path : List Step) : ∀ entries : List (Text × Value),
    contentInViolations path entries = [] ↔
      ∀ value, Entries.get? entries valueKey = some value → IsContent value
  | [] => by simp [contentInViolations]
  | (key, value) :: rest => by
    rw [contentInViolations, Entries.get?_cons]
    split
    · rw [contentViolations_eq_nil _ value]
      simp
    · exact contentInViolations_eq_nil path rest

theorem contentViolations_eq_nil (path : List Step) : ∀ value : Value,
    contentViolations path value = [] ↔ IsContent value
  | .list values => by
    have inside := itemListViolations_eq_nil [] 0 values
    rw [contentViolations]
    constructor
    · intro clean
      split at clean
      · rename_i empty
        exact .items (.list (inside.mp (List.isEmpty_iff.mp empty)))
      · cases clean
    · intro content
      cases content with
      | scalar plain => cases plain
      | items nested =>
        obtain ⟨each⟩ := nested
        rw [inside.mpr each]
        rfl
  | .object entries => by
    constructor
    · exact nofun
    · intro content
      cases content with
      | scalar plain => cases plain
      | items nested => cases nested
  | .null | .bool _ | .int _ | .float _ | .str _ => ⟨fun _ => .scalar rfl, fun _ => rfl⟩

end

/-- A value has no violations exactly if it is a list of items. -/
theorem violations_eq_nil (value : Value) : violations value = [] ↔ IsItems value := by
  cases value with
  | list values =>
    rw [violations, itemsViolations, itemListViolations_eq_nil]
    constructor
    · exact .list
    · rintro ⟨each⟩
      exact each
  | _ => constructor <;> exact nofun

end SurveyDesk.Filter
