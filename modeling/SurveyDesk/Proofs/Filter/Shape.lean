import SurveyDesk.Filter.Payload
import SurveyDesk.Proofs.Fault

/-! The promise that a filter keeps once its shape was checked: at every depth fields are texts,
comparators are texts or missing, and what is compared with is a scalar or a list of items. -/
namespace SurveyDesk.Filter

/-- Whether a value is neither a list nor an object. -/
def isScalar : Value → Bool
  | .list _ | .object _ => false
  | _ => true

/-- Whether a value is a text. -/
def isText : Value → Bool
  | .str _ => true
  | _ => false

/-- Whether a value is a text or missing. -/
def isTextOrNull : Value → Bool
  | .null => true
  | value => isText value

mutual

/-- Items of the promised shape. -/
def ItemsTyped : List Item → Prop
  | [] => True
  | .group _ conditions :: rest => ConditionsTyped conditions ∧ ItemsTyped rest

/-- Conditions of the promised shape. -/
def ConditionsTyped : List Condition → Prop
  | [] => True
  | .compare field comparator content :: rest =>
    isText field ∧ isTextOrNull comparator ∧ ContentTyped content ∧ ConditionsTyped rest

/-- What is compared with, in the promised shape. -/
def ContentTyped : Content → Prop
  | .scalar value => isScalar value
  | .nested items => ItemsTyped items

end

mutual

/-- Items of which every condition, at every depth, has a text as its field. -/
def ItemsNamed : List Item → Prop
  | [] => True
  | .group _ conditions :: rest => ConditionsNamed conditions ∧ ItemsNamed rest

/-- Conditions that have, at every depth, a text as their field. -/
def ConditionsNamed : List Condition → Prop
  | [] => True
  | .compare field _ content :: rest =>
    isText field ∧ ContentNamed content ∧ ConditionsNamed rest

/-- What is compared with, where every condition in it has a text as its field. -/
def ContentNamed : Content → Prop
  | .scalar _ => True
  | .nested items => ItemsNamed items

end

mutual

/-- Items of the promised shape name their fields. -/
theorem ItemsTyped.named : ∀ {items : List Item}, ItemsTyped items → ItemsNamed items
  | [], _ => trivial
  | .group _ _ :: _, typed => ⟨typed.1.named, typed.2.named⟩

theorem ConditionsTyped.named : ∀ {conditions : List Condition},
    ConditionsTyped conditions → ConditionsNamed conditions
  | [], _ => trivial
  | .compare _ _ _ :: _, typed => ⟨typed.1, typed.2.2.1.named, typed.2.2.2.named⟩

theorem ContentTyped.named : ∀ {content : Content}, ContentTyped content → ContentNamed content
  | .scalar _, _ => trivial
  | .nested _, typed => ItemsTyped.named typed

end

/-! ## Values without violations -/

theorem notText_nil {entries : Entries} {path : List Step}
    (clean : notText key path entries = []) (found : entries.get? key = some value) :
    isText value := by
  unfold notText at clean
  rw [found] at clean
  cases value <;> first | rfl | cases clean

theorem textOrNull_of_notText {entries : Entries} {path : List Step}
    (clean : notText key path entries = []) :
    isTextOrNull ((entries.get? key).getD .null) := by
  cases found : entries.get? key with
  | none => rfl
  | some value =>
    have text := notText_nil clean found
    cases value <;> first | rfl | cases text

mutual

theorem itemsTyped_of_list (path : List Step) (place : Nat) : ∀ (values : List Value)
    (items : List Item), itemListViolations path place values = [] →
      itemList values = .ok items → ItemsTyped items
  | [], items, _, read => by
    cases read
    trivial
  | value :: rest, items, clean, read => by
    obtain ⟨first, last⟩ := List.append_eq_nil_iff.mp clean
    obtain ⟨item, readFirst, read⟩ := bind_eq_ok.mp read
    obtain ⟨others, readRest, read⟩ := bind_eq_ok.mp read
    cases read
    exact itemTyped_of_value _ value item others first readFirst
      (itemsTyped_of_list path (place + 1) rest others last readRest)

theorem itemTyped_of_value (path : List Step) : ∀ (value : Value) (item : Item)
    (others : List Item), itemViolations path value = [] → Item.ofValue value = .ok item →
      ItemsTyped others → ItemsTyped (item :: others)
  | .object entries, item, others, clean, read, typed => by
    obtain ⟨clean, _⟩ := List.append_eq_nil_iff.mp clean
    obtain ⟨_, clean⟩ := List.append_eq_nil_iff.mp clean
    obtain ⟨conditions, found, made⟩ := bind_eq_ok.mp read
    cases made
    exact ⟨conditionsTyped_of_entries path entries conditions clean found, typed⟩

theorem conditionsTyped_of_entries (path : List Step) : ∀ (entries : List (Text × Value))
    (conditions : List Condition), conditionsInViolations path entries = [] →
      conditionsIn entries = .ok conditions → ConditionsTyped conditions
  | [], conditions, _, read => by
    cases read
    trivial
  | (key, value) :: rest, conditions, clean, read => by
    unfold conditionsInViolations at clean
    unfold conditionsIn at read
    split at clean
    · rename_i here
      rw [if_pos here] at read
      exact conditionsTyped_of_value _ value conditions clean read
    · rename_i elsewhere
      rw [if_neg elsewhere] at read
      exact conditionsTyped_of_entries path rest conditions clean read

theorem conditionsTyped_of_value (path : List Step) : ∀ (value : Value)
    (conditions : List Condition), conditionsViolations path value = [] →
      conditionsOf value = .ok conditions → ConditionsTyped conditions
  | .list values, conditions, clean, read =>
    conditionsTyped_of_list path 0 values conditions clean read

theorem conditionsTyped_of_list (path : List Step) (place : Nat) : ∀ (values : List Value)
    (conditions : List Condition), conditionListViolations path place values = [] →
      conditionList values = .ok conditions → ConditionsTyped conditions
  | [], conditions, _, read => by
    cases read
    trivial
  | value :: rest, conditions, clean, read => by
    obtain ⟨first, last⟩ := List.append_eq_nil_iff.mp clean
    obtain ⟨condition, readFirst, read⟩ := bind_eq_ok.mp read
    obtain ⟨others, readRest, read⟩ := bind_eq_ok.mp read
    cases read
    exact conditionTyped_of_value _ value condition others first readFirst
      (conditionsTyped_of_list path (place + 1) rest others last readRest)

theorem conditionTyped_of_value (path : List Step) : ∀ (value : Value) (condition : Condition)
    (others : List Condition), conditionViolations path value = [] →
      Condition.ofValue value = .ok condition → ConditionsTyped others →
      ConditionsTyped (condition :: others)
  | .object entries, condition, others, clean, read, typed => by
    obtain ⟨clean, _⟩ := List.append_eq_nil_iff.mp clean
    obtain ⟨clean, contentClean⟩ := List.append_eq_nil_iff.mp clean
    obtain ⟨fieldClean, comparatorClean⟩ := List.append_eq_nil_iff.mp clean
    obtain ⟨content, found, made⟩ := bind_eq_ok.mp read
    have contentTyped := contentTyped_of_entries path entries content contentClean found
    cases named : Entries.get? entries fieldKey with
    | none =>
      rw [named] at made
      cases made
    | some field =>
      rw [named] at made
      cases made
      exact ⟨notText_nil fieldClean named, textOrNull_of_notText comparatorClean, contentTyped,
        typed⟩

theorem contentTyped_of_entries (path : List Step) : ∀ (entries : List (Text × Value))
    (content : Content), contentInViolations path entries = [] →
      contentIn entries = .ok content → ContentTyped content
  | [], content, _, read => by
    cases read
    rfl
  | (key, value) :: rest, content, clean, read => by
    unfold contentInViolations at clean
    unfold contentIn at read
    split at clean
    · rename_i here
      rw [if_pos here] at read
      exact contentTyped_of_value _ value content clean read
    · rename_i elsewhere
      rw [if_neg elsewhere] at read
      exact contentTyped_of_entries path rest content clean read

theorem contentTyped_of_value (path : List Step) : ∀ (value : Value) (content : Content),
    contentViolations path value = [] → Content.ofValue value = .ok content →
      ContentTyped content
  | .list values, content, clean, read => by
    obtain ⟨items, found, made⟩ := bind_eq_ok.mp read
    cases made
    have inside : itemListViolations [] 0 values = [] := by
      unfold contentViolations at clean
      split at clean
      · rename_i empty
        exact List.isEmpty_iff.mp empty
      · cases clean
    exact itemsTyped_of_list [] 0 values items inside found
  | .object entries, content, clean, _ => by cases clean
  | .null, content, _, read => by
    cases read
    rfl
  | .bool _, content, _, read => by
    cases read
    rfl
  | .int _, content, _, read => by
    cases read
    rfl
  | .float _, content, _, read => by
    cases read
    rfl
  | .str _, content, _, read => by
    cases read
    rfl

end

/-! ## What is read -/

theorem least?_eq_none {violations : List Violation}
    (none : Violation.least? violations = none) : violations = [] := by
  cases violations with
  | nil => rfl
  | cons violation rest =>
    rw [Violation.least?, Violation.sorted] at none
    cases others : Violation.sorted rest with
    | nil =>
      rw [others] at none
      cases none
    | cons other more =>
      rw [others, Violation.insert] at none
      split at none <;> cases none

theorem eq_nil_of_firstViolation {found : List Violation}
    (clean : firstViolation found = .ok none) :
    found = [] := by
  unfold firstViolation at clean
  split at clean
  · exact least?_eq_none (Except.ok.inj clean)
  · cases clean

theorem refuse_eq_ok {reported : Option Violation} :
    refuse reported = .ok () ↔ reported = none := by
  cases reported <;> simp [refuse]

theorem orUnreadable_eq_ok {α : Type} {read : Except Fault α} {found : α} :
    orUnreadable read = .ok found ↔ read = .ok found := by
  cases read <;> simp [orUnreadable]

/-- What is read from a payload has the promised shape. -/
theorem itemsTyped_of_readFilter (read : readFilter payload = .ok items) : ItemsTyped items := by
  obtain ⟨value, _, read⟩ := bind_eq_ok.mp read
  obtain ⟨reported, checked, read⟩ := bind_eq_ok.mp read
  obtain ⟨_, accepted, read⟩ := bind_eq_ok.mp read
  have clean : violations value = [] := by
    rw [refuse_eq_ok.mp accepted] at checked
    unfold checkFilter at checked
    split at checked
    · cases checked
    · exact eq_nil_of_firstViolation checked
  have found := orUnreadable_eq_ok.mp read
  cases value with
  | list values => exact itemsTyped_of_list [] 0 values items clean found
  | _ => cases clean

end SurveyDesk.Filter
