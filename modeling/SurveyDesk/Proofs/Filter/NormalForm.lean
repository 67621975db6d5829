import SurveyDesk.Proofs.Filter.Reading
import SurveyDesk.Proofs.Filter.WireForm
import SurveyDesk.Query.Compiler

/-! The normal form of filters. Whatever is read as a filter is written again in its wire form:
notes that nobody reads are gone, and so are marks that stand for the usual way. The levels are as
many as before, so the wire form is never too deep; it is read as the same tree, and writing that
tree changes nothing more. -/
namespace SurveyDesk.Filter
open Query (Compiler)

/-! ## Levels -/

mutual

/-- Items have as many levels on the wire as in the values that they are read from. -/
theorem itemLevels_itemValues : ∀ {values : List Value} {items : List Item},
    itemList values = .ok items → itemLevels (itemValues items) = itemLevels values
  | [], _, read => by
    cases read
    rfl
  | value :: rest, _, read => by
    obtain ⟨item, here, read⟩ := bind_eq_ok.mp read
    obtain ⟨others, later, made⟩ := bind_eq_ok.mp read
    cases made
    rw [itemValues, itemLevels, itemLevels, levelsIn_toValue here, itemLevels_itemValues later]

theorem levelsIn_toValue : ∀ {value : Value} {item : Item},
    Item.ofValue value = .ok item → levelsIn item.toValue = levelsIn value
  | .object entries, _, read => by
    obtain ⟨conditions, found, made⟩ := bind_eq_ok.mp read
    cases made
    exact conditionLevels_conditionsIn found

theorem conditionLevels_conditionsIn : ∀ {entries : List (Text × Value)}
    {conditions : List Condition}, conditionsIn entries = .ok conditions →
      conditionLevels (conditionValues conditions) = levelsOfConditions entries
  | [], _, read => by
    cases read
    rfl
  | (key, value) :: rest, _, read => by
    rw [conditionsIn] at read
    rw [levelsOfConditions_cons]
    split at read
    · rename_i here
      rw [if_pos here, conditionLevels_conditionsOf read]
    · rename_i elsewhere
      rw [if_neg elsewhere, conditionLevels_conditionsIn read]

theorem conditionLevels_conditionsOf : ∀ {value : Value} {conditions : List Condition},
    conditionsOf value = .ok conditions →
      conditionLevels (conditionValues conditions) = levelsOfListed value
  | .list _, _, read => conditionLevels_conditionValues read
  | .str _, _, read | .object _, _, read => by
    rw [conditionsOf] at read
    split at read <;> cases read
    rfl

theorem conditionLevels_conditionValues : ∀ {values : List Value} {conditions : List Condition},
    conditionList values = .ok conditions →
      conditionLevels (conditionValues conditions) = conditionLevels values
  | [], _, read => by
    cases read
    rfl
  | value :: rest, _, read => by
    obtain ⟨condition, here, read⟩ := bind_eq_ok.mp read
    obtain ⟨others, later, made⟩ := bind_eq_ok.mp read
    cases made
    exact conditionLevels_toValue_cons here (conditionLevels_conditionValues later)

/-- A condition has as many levels on the wire as in its value, in front of any others. -/
theorem conditionLevels_toValue_cons :
    ∀ {value : Value} {condition : Condition} {rest others : List Value},
    Condition.ofValue value = .ok condition → conditionLevels others = conditionLevels rest →
      conditionLevels (condition.toValue :: others) = conditionLevels (value :: rest)
  | .object entries, _, rest, others, read, behind => by
    obtain ⟨content, found, made⟩ := bind_eq_ok.mp read
    cases named : Entries.get? entries fieldKey with
    | none =>
      rw [named] at made
      cases made
    | some field =>
      rw [named] at made
      cases made
      rw [toValue_compare, conditionLevels, conditionLevels, levelsOfContent_conditionEntries,
        levelsOfContent_contentIn found, behind]

theorem levelsOfContent_contentIn : ∀ {entries : List (Text × Value)} {content : Content},
    contentIn entries = .ok content →
      levelsOfCompared content.toValue = levelsOfContent entries
  | [], _, read => by
    cases read
    rfl
  | (key, value) :: rest, _, read => by
    rw [contentIn] at read
    rw [levelsOfContent_cons]
    split at read
    · rename_i here
      rw [if_pos here, levelsOfContent_ofValue read]
    · rename_i elsewhere
      rw [if_neg elsewhere, levelsOfContent_contentIn read]

theorem levelsOfContent_ofValue : ∀ {value : Value} {content : Content},
    Content.ofValue value = .ok content →
      levelsOfCompared content.toValue = levelsOfCompared value
  | .list _, _, read => by
    obtain ⟨items, found, made⟩ := bind_eq_ok.mp read
    cases made
    exact congrArg (· + 1) (itemLevels_itemValues found)
  | .null, _, read | .bool _, _, read | .int _, _, read | .float _, _, read | .str _, _, read
  | .object _, _, read => by
    cases read
    rfl

end

/-! ## Reading and writing -/

variable {payload : Value} {items : List Item}

/-- What is read of a payload has the levels of its value, which are not too many. -/
theorem levels_itemValues (read : readFilter payload = .ok items) :
    levels (.list (itemValues items)) ≤ levelLimit := by
  obtain ⟨value, decoded, -⟩ := bind_eq_ok.mp read
  rw [readFilter_of_value decoded] at read
  split at read
  · cases read
  · rename_i ends
    have few := (not_or.mp ends).1
    split at read
    · cases read
    · rename_i clean
      -- only a list is without violations
      obtain ⟨-⟩ := least?_violations.mp clean
      have same := itemLevels_itemValues (orUnreadable_eq_ok.mp read)
      exact Nat.le_trans (Nat.le_of_eq same) (Nat.not_lt.mp few)

/-- What is read is written in its wire form, and read from it as it is. -/
theorem readFilter_again (read : readFilter payload = .ok items) :
    readFilter (.list (itemValues items)) = .ok items :=
  (readFilter_itemValues (itemsTyped_of_readFilter read) rfl).trans
    (if_pos (levels_itemValues read))

/-- The wire form and the tree are inverse. Every item of the promised shape is read back from its
wire form. Whatever is read of a payload has a wire form that is read as the same tree, that is not
changed by reading it and writing it again, and that every compiler turns into the same predicate
as the payload, or refuses for the same reason. -/
theorem wire_forms_are_normal :
    (∀ {item : Item}, ItemsTyped [item] → Item.ofValue item.toValue = .ok item) ∧
    ∀ {payload : Value} {items : List Item}, readFilter payload = .ok items →
      readFilter (.list (itemValues items)) = .ok items ∧
      (∀ again, readFilter (.list (itemValues items)) = .ok again →
        itemValues again = itemValues items) ∧
      ∀ compiler : Compiler,
        (readFilter (.list (itemValues items))).map compiler.compileFilter =
          (readFilter payload).map compiler.compileFilter := by
  constructor
  · intro item typed
    obtain ⟨found, here, made⟩ := bind_eq_ok.mp (itemList_itemValues typed)
    cases made
    exact here
  · intro payload items read
    have same := readFilter_again read
    refine ⟨same, fun again other => ?_, fun compiler => by rw [same, read]⟩
    cases same.symm.trans other
    rfl

/-- An item that says what goes without saying, with a note that nobody reads. -/
private def wordyValue : Value := .list [.object [("note", .int 1), ("comparator", .str "$and"),
  ("condition", .list [.object [("comparator", .str "$ne"), ("field", .str "title"),
    ("value", .list [.object [("comparator", .str "$or"), ("condition", .list [])]])]])]]

private def wordyItem : Item :=
  .group .every [.compare (.str "title") (.str "$ne") (.nested [.group .either []])]

theorem wire_forms_are_normal_wordy :
    readFilter wordyValue = .ok [wordyItem] ∧
    readFilter (.list (itemValues [wordyItem])) = .ok [wordyItem] ∧
    Item.ofValue wordyItem.toValue = .ok wordyItem := by
  have typed : ItemsTyped [wordyItem] := ⟨⟨rfl, rfl, ⟨trivial, trivial⟩, trivial⟩, trivial⟩
  have read : readFilter wordyValue = .ok [wordyItem] := by
    rw [readFilter_of_value rfl]
    rfl
  obtain ⟨back, normal⟩ := wire_forms_are_normal
  exact ⟨read, (normal read).1, back typed⟩

end SurveyDesk.Filter
