import SurveyDesk.Filter.Payload
import SurveyDesk.Proofs.Json.Depth
import SurveyDesk.Proofs.Value.Entries

/-! What checking a filter writes out is part of the filter: it is nested no deeper than the filter
is, and it is at one of its levels. A filter of few levels that is not nested deeply is therefore
checked to the end. -/
namespace SurveyDesk.Filter
open Json (nesting nestingLimit)

/-! ## Levels -/

/-- The levels of a value where a list of conditions is due. -/
abbrev levelsOfListed : Value → Nat
  | .list conditions => conditionLevels conditions
  | _ => 1

/-- The levels of a value that a condition compares with. -/
abbrev levelsOfCompared : Value → Nat
  | .list items => itemLevels items + 1
  | _ => 1

/-- The levels of a value where a condition is due. -/
abbrev levelsOfCondition : Value → Nat
  | .object entries => levelsOfContent entries
  | _ => 1

theorem levelsOfConditions_cons (key : Text) (value : Value)
    (rest : List (Text × Value)) : levelsOfConditions ((key, value) :: rest) =
      if key = conditionKey then levelsOfListed value else levelsOfConditions rest := by
  cases value <;> rw [levelsOfConditions] <;> exact nofun

theorem levelsOfContent_cons (key : Text) (value : Value)
    (rest : List (Text × Value)) : levelsOfContent ((key, value) :: rest) =
      if key = valueKey then levelsOfCompared value else levelsOfContent rest := by
  cases value <;> rw [levelsOfContent] <;> exact nofun

theorem conditionLevels_cons (condition : Value) (rest : List Value) :
    conditionLevels (condition :: rest) =
      max (levelsOfCondition condition) (conditionLevels rest) := by
  cases condition <;> rw [conditionLevels] <;> exact nofun

theorem conditionLevels_pos (conditions : List Value) : 1 ≤ conditionLevels conditions := by
  induction conditions with
  | nil => exact Nat.le_refl 1
  | cons condition rest ih =>
    rw [conditionLevels_cons]
    exact Nat.le_trans ih (Nat.le_max_right _ _)

theorem levelsOfConditions_pos (entries : List (Text × Value)) :
    1 ≤ levelsOfConditions entries := by
  induction entries with
  | nil => exact Nat.le_refl 1
  | cons entry rest ih =>
    obtain ⟨key, value⟩ := entry
    rw [levelsOfConditions_cons]
    split
    · cases value with
      | list conditions => exact conditionLevels_pos conditions
      | _ => exact Nat.le_refl 1
    · exact ih

theorem levelsOfContent_pos (entries : List (Text × Value)) : 1 ≤ levelsOfContent entries := by
  induction entries with
  | nil => exact Nat.le_refl 1
  | cons entry rest ih =>
    obtain ⟨key, value⟩ := entry
    rw [levelsOfContent_cons]
    split
    · cases value with
      | list items => exact Nat.le_add_left 1 _
      | _ => exact Nat.le_refl 1
    · exact ih

theorem levelsIn_pos (item : Value) : 1 ≤ levelsIn item := by
  cases item with
  | object entries => exact levelsOfConditions_pos entries
  | _ => exact Nat.le_refl 1

/-! ## Parts -/

/-- Parts that are at one of so many levels, from a first level on, and nested no deeper than so
much. -/
def PartsWithin (level count depth : Nat) (parts : List (Nat × Value)) : Prop :=
  ∀ part ∈ parts, part.1 < level + count ∧ nesting part.2 ≤ depth

variable {level count more depth deeper : Nat} {parts others : List (Nat × Value)}

theorem PartsWithin.mono (within : PartsWithin level count depth parts) (further : count ≤ more)
    (below : depth ≤ deeper) : PartsWithin level more deeper parts := by
  intro part member
  have bounds := within part member
  omega

theorem PartsWithin.append (within : PartsWithin level count depth parts)
    (again : PartsWithin level count depth others) :
    PartsWithin level count depth (parts ++ others) :=
  List.forall_mem_append.mpr ⟨within, again⟩

theorem PartsWithin.nil : PartsWithin level count depth [] := List.forall_mem_nil _

theorem PartsWithin.single (value : Value) (some : 1 ≤ count) :
    PartsWithin level count (nesting value) [(level, value)] := by
  intro part member
  cases List.mem_singleton.mp member
  exact ⟨Nat.lt_add_of_pos_right some, Nat.le_refl _⟩

theorem textShown_within (key : String) (level : Nat) (entries : Entries) :
    PartsWithin level 1 (nesting (.object entries)) (textShown key level entries) := by
  unfold textShown
  split
  · exact .nil
  · exact .nil
  · rename_i value _ held
    have inside : nesting value ≤ nesting.entriesNesting entries :=
      Json.entriesNesting_le.mp (Nat.le_refl _) (key, value) (Entries.mem_of_get? held)
    refine (PartsWithin.single value (Nat.le_refl 1)).mono (Nat.le_refl 1) ?_
    rw [nesting]
    omega

mutual

theorem itemListShown_within (level : Nat) : ∀ items : List Value,
    PartsWithin level (itemLevels items) (nesting.itemsNesting items) (itemListShown level items)
  | [] => .nil
  | item :: rest => by
    have here := itemShown_within level item
    have later := itemListShown_within level rest
    exact (here.mono (Nat.le_max_left _ _) (Nat.le_max_left _ _)).append
      (later.mono (Nat.le_max_right _ _) (Nat.le_max_right _ _))

theorem itemShown_within (level : Nat) : ∀ item : Value,
    PartsWithin level (levelsIn item) (nesting item) (itemShown level item)
  | .object entries => by
    have mark := textShown_within comparatorKey level entries
    have conditions := conditionsInShown_within level entries
    exact (mark.mono (levelsOfConditions_pos entries) (Nat.le_refl _)).append
      (conditions.mono (Nat.le_refl _) (Nat.le_add_right _ 1))
  | .null | .bool _ | .int _ | .float _ | .str _ | .list _ => .single _ (Nat.le_refl 1)

theorem conditionsInShown_within (level : Nat) : ∀ entries : List (Text × Value),
    PartsWithin level (levelsOfConditions entries) (nesting.entriesNesting entries)
      (conditionsInShown level entries)
  | [] => .nil
  | (key, value) :: rest => by
    rw [conditionsInShown, levelsOfConditions_cons]
    split
    · exact (conditionsShown_within level value).mono (Nat.le_refl _) (Nat.le_max_left _ _)
    · exact (conditionsInShown_within level rest).mono (Nat.le_refl _) (Nat.le_max_right _ _)

theorem conditionsShown_within (level : Nat) : ∀ value : Value,
    PartsWithin level (levelsOfListed value) (nesting value) (conditionsShown level value)
  | .list conditions =>
    (conditionListShown_within level conditions).mono (Nat.le_refl _) (Nat.le_add_right _ 1)
  | .null | .bool _ | .int _ | .float _ | .str _ | .object _ => .single _ (Nat.le_refl 1)

theorem conditionListShown_within (level : Nat) : ∀ conditions : List Value,
    PartsWithin level (conditionLevels conditions) (nesting.itemsNesting conditions)
      (conditionListShown level conditions)
  | [] => .nil
  | condition :: rest => by
    have here := conditionShown_within level condition
    have later := conditionListShown_within level rest
    rw [conditionLevels_cons]
    exact (here.mono (Nat.le_max_left _ _) (Nat.le_max_left _ _)).append
      (later.mono (Nat.le_max_right _ _) (Nat.le_max_right _ _))

theorem conditionShown_within (level : Nat) : ∀ condition : Value,
    PartsWithin level (levelsOfCondition condition) (nesting condition)
      (conditionShown level condition)
  | .object entries => by
    have some := levelsOfContent_pos entries
    have field := textShown_within fieldKey level entries
    have comparator := textShown_within comparatorKey level entries
    have content := contentInShown_within level entries
    exact ((field.mono some (Nat.le_refl _)).append (comparator.mono some (Nat.le_refl _))).append
      (content.mono (Nat.le_refl _) (Nat.le_add_right _ 1))
  | .null | .bool _ | .int _ | .float _ | .str _ | .list _ => .single _ (Nat.le_refl 1)

theorem contentInShown_within (level : Nat) : ∀ entries : List (Text × Value),
    PartsWithin level (levelsOfContent entries) (nesting.entriesNesting entries)
      (contentInShown level entries)
  | [] => .nil
  | (key, value) :: rest => by
    rw [contentInShown, levelsOfContent_cons]
    split
    · exact (contentShown_within level value).mono (Nat.le_refl _) (Nat.le_max_left _ _)
    · exact (contentInShown_within level rest).mono (Nat.le_refl _) (Nat.le_max_right _ _)

theorem contentShown_within (level : Nat) : ∀ value : Value,
    PartsWithin level (levelsOfCompared value) (nesting value) (contentShown level value)
  | .list items => by
    have itself : PartsWithin level (itemLevels items + 1) (nesting (.list items))
        [(level, .list items)] := .single _ (Nat.le_add_left 1 _)
    refine itself.append fun part member => ?_
    have inside := itemListShown_within (level + 1) items part member
    rw [nesting]
    omega
  | .object entries => .single _ (Nat.le_refl 1)
  | .null | .bool _ | .int _ | .float _ | .str _ => .nil

end

/-- What is written out while a value is checked is at one of its levels, and nested no deeper than
it is. -/
theorem shown_within (value : Value) :
    PartsWithin 0 (levels value) (nesting value) (shown value) := by
  cases value with
  | list items => exact (itemListShown_within 0 items).mono (Nat.le_refl _) (Nat.le_add_right _ 1)
  | _ => exact .single _ (Nat.le_refl 1)

theorem overlong_eq_false {value : Value} :
    overlong value = false ↔ ∀ part ∈ shown value, nesting part.2 ≤ roomAt part.1 := by
  simp [overlong]

/-- A value of at most thirty levels is checked to the end if it is not nested too deeply. -/
theorem not_overlong_of_shallow {value : Value} (few : levels value ≤ 30)
    (shallow : nesting value ≤ 560) : overlong value = false := by
  refine overlong_eq_false.mpr fun part member => ?_
  have within := shown_within value part member
  unfold roomAt nestingLimit
  omega

end SurveyDesk.Filter
