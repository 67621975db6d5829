import SurveyDesk.Proofs.Filter.Shape
import SurveyDesk.Proofs.Filter.Shown
import SurveyDesk.Proofs.Json.Exact

/-! The wire form of a filter. A tree of the promised shape is written as a value without
violations, which is read as the same tree again; each of its levels takes no more than four lists
and objects inside one another. -/
namespace SurveyDesk.Filter

/-! ## Entries on the wire -/

/-- The entries of an item on the wire. -/
def itemEntries (combinator : Combinator) (conditions : List Condition) : Entries :=
  (conditionKey, .list (conditionValues conditions)) ::
    (match combinator with
    | .every => []
    | .either => [(comparatorKey, .str orMark)])

/-- The entries of a condition on the wire. -/
def conditionEntries (field comparator : Value) (content : Content) : Entries :=
  (fieldKey, field) ::
    ((match comparator with
      | .null => []
      | comparator => [(↑comparatorKey, comparator)]) ++ [((valueKey : Text), content.toValue)])

theorem toValue_group (combinator : Combinator) (conditions : List Condition) :
    Item.toValue (.group combinator conditions) = .object (itemEntries combinator conditions) := rfl

theorem toValue_compare (field comparator : Value) (content : Content) :
    Condition.toValue (.compare field comparator content) =
      .object (conditionEntries field comparator content) := by
  cases comparator <;> rfl

variable {field comparator : Value} {content : Content} {conditions : List Condition}

theorem ofMark_itemEntries (combinator : Combinator) (conditions : List Condition) :
    Combinator.ofMark ((itemEntries combinator conditions).get? comparatorKey) = combinator := by
  cases combinator <;> rfl

theorem get?_conditionEntries_comparator (field comparator : Value) (content : Content) :
    ((conditionEntries field comparator content).get? comparatorKey).getD .null = comparator := by
  cases comparator <;> rfl

theorem contentIn_conditionEntries (field comparator : Value) (content : Content) :
    contentIn (conditionEntries field comparator content) = Content.ofValue content.toValue := by
  cases comparator <;> rfl

theorem notText_itemEntries (path : List Step) (combinator : Combinator)
    (conditions : List Condition) :
    notText comparatorKey path (itemEntries combinator conditions) = [] := by
  cases combinator <;> rfl

theorem notText_conditionEntries_field (path : List Step) (text : isText field) :
    notText fieldKey path (conditionEntries field comparator content) = [] := by
  cases field <;> first | rfl | cases text

theorem notText_conditionEntries_comparator (path : List Step) (text : isTextOrNull comparator) :
    notText comparatorKey path (conditionEntries field comparator content) = [] := by
  cases comparator <;> first | rfl | cases text

theorem contentInViolations_conditionEntries (path : List Step) (field comparator : Value)
    (content : Content) :
    contentInViolations path (conditionEntries field comparator content) =
      contentViolations (path ++ [.key valueKey]) content.toValue := by
  cases comparator <;> rfl

theorem levelsOfContent_conditionEntries (field comparator : Value) (content : Content) :
    levelsOfContent (conditionEntries field comparator content) =
      levelsOfCompared content.toValue := by
  have last : levelsOfContent (conditionEntries field comparator content) =
      levelsOfContent [(valueKey, content.toValue)] := by
    cases comparator <;> rfl
  rw [last, levelsOfContent_cons, if_pos rfl]

/-! ## Reading back -/

mutual

/-- Items of the promised shape are read back from their wire form. -/
theorem itemList_itemValues :
    ∀ {items : List Item}, ItemsTyped items → itemList (itemValues items) = .ok items
  | [], _ => rfl
  | .group combinator conditions :: rest, ⟨typed, others⟩ => by
    have inside : conditionsIn (itemEntries combinator conditions) = .ok conditions :=
      conditionList_conditionValues typed
    rw [itemValues, toValue_group, itemList, Item.ofValue, inside, ofMark_itemEntries,
      itemList_itemValues others]
    rfl

theorem conditionList_conditionValues : ∀ {conditions : List Condition},
    ConditionsTyped conditions → conditionList (conditionValues conditions) = .ok conditions
  | [], _ => rfl
  | .compare field comparator content :: rest, ⟨_, _, typed, others⟩ => by
    have inside : contentIn (conditionEntries field comparator content) = .ok content := by
      rw [contentIn_conditionEntries]
      exact contentOf_toValue typed
    have named : Entries.get? (conditionEntries field comparator content) fieldKey = some field :=
      rfl
    rw [conditionValues, toValue_compare, conditionList, Condition.ofValue, inside, ok_bind, named,
      get?_conditionEntries_comparator, conditionList_conditionValues others]
    rfl

theorem contentOf_toValue :
    ∀ {content : Content}, ContentTyped content → Content.ofValue content.toValue = .ok content
  | .scalar value, typed => by cases value <;> first | rfl | cases typed
  | .nested items, typed => by
    rw [Content.toValue, Content.ofValue, itemList_itemValues typed]
    rfl

end

/-! ## No violations -/

mutual

/-- Nothing is wrong with the wire form of items of the promised shape. -/
theorem itemListViolations_itemValues (path : List Step) : ∀ (place : Nat) {items : List Item},
    ItemsTyped items → itemListViolations path place (itemValues items) = []
  | _, [], _ => rfl
  | place, .group combinator conditions :: rest, ⟨typed, others⟩ => by
    have inside (path : List Step) :
        conditionsInViolations path (itemEntries combinator conditions) = [] :=
      conditionListViolations_conditionValues _ 0 typed
    have here (path : List Step) : lacking conditionKey path (itemEntries combinator conditions) =
        [] := rfl
    rw [itemValues, toValue_group, itemListViolations, itemViolations, notText_itemEntries, inside,
      here, itemListViolations_itemValues path (place + 1) others]
    rfl

theorem conditionListViolations_conditionValues (path : List Step) :
    ∀ (place : Nat) {conditions : List Condition}, ConditionsTyped conditions →
      conditionListViolations path place (conditionValues conditions) = []
  | _, [], _ => rfl
  | place, .compare field comparator content :: rest, ⟨text, textOrNull, typed, others⟩ => by
    have inside (path : List Step) :
        contentInViolations path (conditionEntries field comparator content) = [] := by
      rw [contentInViolations_conditionEntries]
      exact contentViolations_toValue _ typed
    have here (path : List Step) :
        lacking fieldKey path (conditionEntries field comparator content) = [] := rfl
    rw [conditionValues, toValue_compare, conditionListViolations, conditionViolations,
      notText_conditionEntries_field _ text, notText_conditionEntries_comparator _ textOrNull,
      inside, here, conditionListViolations_conditionValues path (place + 1) others]
    rfl

theorem contentViolations_toValue (path : List Step) :
    ∀ {content : Content}, ContentTyped content → contentViolations path content.toValue = []
  | .scalar value, typed => by cases value <;> first | rfl | cases typed
  | .nested items, typed => by
    rw [Content.toValue, contentViolations, itemListViolations_itemValues [] 0 typed]
    rfl

end

/-! ## Levels -/

theorem entriesNesting_itemEntries (combinator : Combinator) (conditions : List Condition) :
    Json.nesting.entriesNesting (itemEntries combinator conditions) =
      Json.nesting.itemsNesting (conditionValues conditions) + 1 := by
  cases combinator <;> rfl

theorem entriesNesting_conditionEntries (text : isText field)
    (textOrNull : isTextOrNull comparator) :
    Json.nesting.entriesNesting (conditionEntries field comparator content) =
      Json.nesting content.toValue := by
  have flat : Json.nesting field = 0 := by cases field <;> first | rfl | cases text
  cases comparator with
  | null | str => simp [conditionEntries, Json.nesting.entriesNesting, Json.nesting, flat]
  | _ => cases textOrNull

mutual

/-- Every level of items takes at most four lists and objects: that of the items, an item, that of
its conditions, and a condition. -/
theorem nesting_itemValues : ∀ {items : List Item}, ItemsTyped items →
    Json.nesting (.list (itemValues items)) ≤ 4 * itemLevels (itemValues items)
  | [], _ => by decide
  | .group combinator conditions :: rest, ⟨typed, others⟩ => by
    have inside := nesting_conditionValues typed
    have behind := nesting_itemValues others
    have here : levelsIn (.object (itemEntries combinator conditions)) =
        conditionLevels (conditionValues conditions) := rfl
    simp only [itemValues, toValue_group, itemLevels, here, Json.nesting,
      Json.nesting.itemsNesting, entriesNesting_itemEntries] at behind ⊢
    omega

theorem nesting_conditionValues : ∀ {conditions : List Condition}, ConditionsTyped conditions →
    Json.nesting.itemsNesting (conditionValues conditions) + 3 ≤
      4 * conditionLevels (conditionValues conditions)
  | [], _ => by decide
  | .compare field comparator content :: rest, ⟨text, textOrNull, typed, others⟩ => by
    have inside := nesting_content typed
    have behind := nesting_conditionValues others
    simp only [conditionValues, toValue_compare, conditionLevels, levelsOfContent_conditionEntries,
      Json.nesting, Json.nesting.itemsNesting, entriesNesting_conditionEntries text textOrNull]
    omega

theorem nesting_content : ∀ {content : Content}, ContentTyped content →
    Json.nesting content.toValue + 4 ≤ 4 * levelsOfCompared content.toValue
  | .scalar value, typed => by cases value <;> first | exact Nat.le_refl 4 | cases typed
  | .nested items, typed => by
    have inside := nesting_itemValues typed
    have level : levelsOfCompared (.list (itemValues items)) =
        itemLevels (itemValues items) + 1 := rfl
    rw [Content.toValue, level]
    omega

end

/-! ## What is shown -/

theorem textShown_itemEntries (level : Nat) (combinator : Combinator)
    (conditions : List Condition) :
    textShown comparatorKey level (itemEntries combinator conditions) = [] := by
  cases combinator <;> rfl

theorem textShown_conditionEntries_field (level : Nat) (text : isText field) :
    textShown fieldKey level (conditionEntries field comparator content) = [] := by
  cases field <;> first | rfl | cases text

theorem textShown_conditionEntries_comparator (level : Nat) (text : isTextOrNull comparator) :
    textShown comparatorKey level (conditionEntries field comparator content) = [] := by
  cases comparator <;> first | rfl | cases text

theorem contentInShown_conditionEntries (level : Nat) (field comparator : Value)
    (content : Content) :
    contentInShown level (conditionEntries field comparator content) =
      contentShown level content.toValue := by
  cases comparator <;> rfl

mutual

/-- What is shown of a wire form takes no more lists and objects than the levels below it. -/
theorem itemListShown_itemValues (level : Nat) : ∀ {items : List Item}, ItemsTyped items →
    ∀ part ∈ itemListShown level (itemValues items),
      4 * part.1 + Json.nesting part.2 ≤ 4 * (level + itemLevels (itemValues items))
  | [], _ => List.forall_mem_nil _
  | .group combinator conditions :: rest, ⟨typed, others⟩ => by
    have inside := conditionListShown_conditionValues level typed
    have behind := itemListShown_itemValues level others
    have here : levelsIn (.object (itemEntries combinator conditions)) =
        conditionLevels (conditionValues conditions) := rfl
    have listed : conditionsInShown level (itemEntries combinator conditions) =
        conditionListShown level (conditionValues conditions) := rfl
    rw [itemValues, toValue_group, itemListShown, itemShown, textShown_itemEntries, listed,
      List.nil_append, List.forall_mem_append, itemLevels, here]
    refine ⟨fun part member => ?_, fun part member => ?_⟩
    · have bound := inside part member
      omega
    · have bound := behind part member
      omega

theorem conditionListShown_conditionValues (level : Nat) : ∀ {conditions : List Condition},
    ConditionsTyped conditions → ∀ part ∈ conditionListShown level (conditionValues conditions),
      4 * part.1 + Json.nesting part.2 ≤ 4 * (level + conditionLevels (conditionValues conditions))
  | [], _ => List.forall_mem_nil _
  | .compare field comparator content :: rest, ⟨text, textOrNull, typed, others⟩ => by
    have inside := contentShown_toValue level typed
    have behind := conditionListShown_conditionValues level others
    rw [conditionValues, toValue_compare, conditionListShown, conditionShown,
      textShown_conditionEntries_field level text,
      textShown_conditionEntries_comparator level textOrNull, contentInShown_conditionEntries,
      List.nil_append, List.nil_append, List.forall_mem_append, conditionLevels,
      levelsOfContent_conditionEntries]
    refine ⟨fun part member => ?_, fun part member => ?_⟩
    · have bound := inside part member
      omega
    · have bound := behind part member
      omega

theorem contentShown_toValue (level : Nat) : ∀ {content : Content}, ContentTyped content →
    ∀ part ∈ contentShown level content.toValue, 4 * part.1 + Json.nesting part.2 ≤
      4 * (level + levelsOfCompared content.toValue)
  | .scalar value, typed => by cases value <;> first | exact List.forall_mem_nil _ | cases typed
  | .nested items, typed => by
    have whole := nesting_itemValues typed
    have inside := itemListShown_itemValues (level + 1) typed
    have below : levelsOfCompared (.list (itemValues items)) =
        itemLevels (itemValues items) + 1 := rfl
    rw [Content.toValue, contentShown, List.forall_mem_cons, below]
    refine ⟨?_, fun part member => ?_⟩
    · dsimp only
      omega
    · have bound := inside part member
      omega

end

/-- A wire form that has not too many levels is checked to the end. -/
theorem not_overlong_itemValues {items : List Item} (typed : ItemsTyped items)
    (few : levels (.list (itemValues items)) ≤ levelLimit) :
    overlong (.list (itemValues items)) = false := by
  refine overlong_eq_false.mpr fun part member => ?_
  have level := (shown_within _ part member).1
  have depth := itemListShown_itemValues 0 typed part member
  have same : levels (.list (itemValues items)) = itemLevels (itemValues items) := rfl
  rw [same] at level few
  unfold roomAt Json.nestingLimit
  unfold levelLimit at few
  omega

/-! ## Payloads -/

theorem firstViolation_nil : firstViolation [] = .ok none := rfl

/-- Items of the promised shape are read from their wire form, unless they have too many levels. -/
theorem readFilter_itemValues {payload : Value} {items : List Item} (typed : ItemsTyped items)
    (decoded : payloadValue payload = .ok (.list (itemValues items))) :
    readFilter payload =
      if levels (.list (itemValues items)) ≤ levelLimit then .ok items else .error .tooDeep := by
  have clean : violations (.list (itemValues items)) = [] :=
    itemListViolations_itemValues [] 0 typed
  have found : itemsOf (.list (itemValues items)) = .ok items := itemList_itemValues typed
  rw [readFilter, decoded, ok_bind, checkFilter]
  by_cases few : levels (.list (itemValues items)) ≤ levelLimit
  · have ends : ¬ (levelLimit < levels (.list (itemValues items)) ∨
        overlong (.list (itemValues items)) = true) := by
      rw [not_overlong_itemValues typed few]
      exact not_or.mpr ⟨Nat.not_lt.mpr few, nofun⟩
    rw [if_pos few, if_neg ends, clean, firstViolation_nil, ok_bind, found]
    rfl
  · rw [if_neg few, if_pos (.inl (Nat.not_le.mp few))]
    rfl

end SurveyDesk.Filter
