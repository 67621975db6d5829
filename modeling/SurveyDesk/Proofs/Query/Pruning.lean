import SurveyDesk.Proofs.Query.Limits
import SurveyDesk.Proofs.Query.Strictness

/-! Dropped conditions leave no trace. A filter can be pruned of the conditions that a compiler
drops, at every depth and with everything nested in them, and what a compiler answers for a filter
it answers for the pruned filter, in the same order. So what is in dropped conditions cannot be told
from the answer. -/
namespace SurveyDesk.Filter

mutual

/-- Items without the conditions that are dropped. An item stays even if none of its conditions
does. -/
def prunedItems (fields : List Text) : List Item → List Item
  | [] => []
  | .group combinator conditions :: rest =>
    .group combinator (prunedConditions fields conditions) :: prunedItems fields rest

/-- The conditions whose field is allowed and whose comparator is missing or known, pruned in
turn. -/
def prunedConditions (fields : List Text) : List Condition → List Condition
  | [] => []
  | .compare field comparator content :: rest =>
    match clause? fields field comparator with
    | some _ => .compare field comparator (prunedContent fields content)
        :: prunedConditions fields rest
    | none => prunedConditions fields rest

/-- What a condition compares with, pruned. -/
def prunedContent (fields : List Text) : Content → Content
  | .scalar value => .scalar value
  | .nested items => .nested (prunedItems fields items)

end

end SurveyDesk.Filter

namespace SurveyDesk.Query
open SurveyDesk.Filter (Item Condition Content ItemsNamed prunedItems prunedConditions
  prunedContent)

/-! ## Limits -/

mutual

theorem prunedItems_smaller (fields : List Text) : ∀ items : List Item,
    depthBelow (prunedItems fields items) ≤ depthBelow items ∧
      size (prunedItems fields items) ≤ size items
  | [] => ⟨Nat.le_refl _, Nat.le_refl _⟩
  | .group combinator conditions :: rest => by
    have inside := prunedConditions_smaller fields conditions
    have behind := prunedItems_smaller fields rest
    rw [prunedItems, size_cons, size_cons, depthBelow, depthBelow]
    omega

theorem prunedConditions_smaller (fields : List Text) : ∀ conditions : List Condition,
    conditionsDepth (prunedConditions fields conditions) ≤ conditionsDepth conditions ∧
      (prunedConditions fields conditions).length ≤ conditions.length ∧
      conditionsSize (prunedConditions fields conditions) ≤ conditionsSize conditions
  | [] => ⟨Nat.le_refl _, Nat.le_refl _, Nat.le_refl _⟩
  | .compare field comparator content :: rest => by
    have inside := prunedContent_smaller fields content
    have behind := prunedConditions_smaller fields rest
    unfold prunedConditions
    split <;> simp only [conditionsDepth, conditionsSize, List.length_cons] <;> omega

theorem prunedContent_smaller (fields : List Text) : ∀ content : Content,
    contentDepth (prunedContent fields content) ≤ contentDepth content ∧
      contentSize (prunedContent fields content) ≤ contentSize content
  | .scalar value => ⟨Nat.le_refl _, Nat.le_refl _⟩
  | .nested items => by
    have inside := prunedItems_smaller fields items
    exact ⟨Nat.succ_le_succ inside.1, inside.2⟩

end

/-- A filter within the limits is within the limits when it is pruned. -/
theorem check_prunedItems {limits : Limits} (fields : List Text)
    (within : limits.check items = .ok ()) : limits.check (prunedItems fields items) = .ok () := by
  obtain ⟨levels, conditions⟩ := Limits.check_eq_ok.mp within
  have smaller := prunedItems_smaller fields items
  have shallower : depth (prunedItems fields items) ≤ depth items := Nat.succ_le_succ smaller.1
  exact Limits.check_eq_ok.mpr ⟨by omega, by omega⟩

/-! ## Compiling -/

variable {compiler : Compiler}

mutual

theorem compileItems_pruned : ∀ (before : Entries) (items : List Item) (compiled : Entries),
    compileItems compiler before items = .ok compiled →
      compileItems compiler before (prunedItems compiler.filterFields items) = .ok compiled
  | before, [], compiled, answered => answered
  | before, .group combinator conditions :: rest, compiled, answered => by
    obtain ⟨pairs, inside, answered⟩ := bind_eq_ok.mp answered
    obtain ⟨joint, joins, behind⟩ := bind_eq_ok.mp answered
    rw [prunedItems, compileItems, compileConditions_pruned [] conditions pairs inside, ok_bind,
      joins, ok_bind]
    exact compileItems_pruned joint rest compiled behind

theorem compileConditions_pruned : ∀ (before : Entries) (conditions : List Condition)
    (compiled : Entries), compileConditions compiler before conditions = .ok compiled →
      compileConditions compiler before (prunedConditions compiler.filterFields conditions) =
        .ok compiled
  | before, [], compiled, answered => answered
  | before, .compare field comparator content :: rest, compiled, answered => by
    have onward := fun before => compileConditions_pruned before rest compiled
    unfold prunedConditions
    rcases compileConditions_cons_eq_ok.mp answered with
      ⟨looked, answered⟩ | ⟨name, operand, looked, inside, outcome⟩
    · rw [clause?_of_allowed? looked comparator]
      exact onward before answered
    · rw [clause?_of_allowed? looked comparator]
      rcases outcome with ⟨unknown, answered⟩ | ⟨comparison, known, fresh, answered⟩
      · rw [unknown]
        exact onward before answered
      · rw [known]
        exact compileConditions_cons_eq_ok.mpr (Or.inr ⟨name, operand, looked,
          compileContent_pruned content operand inside,
          Or.inr ⟨comparison, known, fresh, onward _ answered⟩⟩)

theorem compileContent_pruned : ∀ (content : Content) (compiled : Value),
    compileContent compiler content = .ok compiled →
      compileContent compiler (prunedContent compiler.filterFields content) = .ok compiled
  | .scalar value, compiled, answered => answered
  | .nested items, compiled, answered => by
    obtain ⟨entries, inside, answered⟩ := bind_eq_ok.mp answered
    rw [prunedContent, compileContent, compileItems_pruned [] items entries inside]
    exact answered

end

/-- What is compiled from a filter is compiled from the pruned filter. Filters that differ in
dropped conditions only are therefore compiled to the same, where they are compiled; and filters
within the limits whose fields are texts are compiled by every compiler that is not strict and keeps
the key of alternatives from its fields. -/
theorem compileFilter_pruned (compiler : Compiler) (items others : List Item) :
    (∀ compiled, compiler.compileFilter items = .ok compiled →
      compiler.compileFilter (prunedItems compiler.filterFields items) = .ok compiled) ∧
    (prunedItems compiler.filterFields items = prunedItems compiler.filterFields others →
      (∀ compiled compiled', compiler.compileFilter items = .ok compiled →
        compiler.compileFilter others = .ok compiled' → compiled = compiled') ∧
      (compiler.strict = false → Predicate.orKey ∉ compiler.filterFields →
        ItemsNamed items → compiler.limits.check items = .ok () →
        ItemsNamed others → compiler.limits.check others = .ok () →
          ∃ compiled, compiler.compileFilter items = .ok compiled ∧
            compiler.compileFilter others = .ok compiled)) := by
  have traceless : ∀ items compiled, compiler.compileFilter items = .ok compiled →
      compiler.compileFilter (prunedItems compiler.filterFields items) = .ok compiled := by
    intro items compiled answered
    obtain ⟨_, within, answered⟩ := bind_eq_ok.mp answered
    rw [Compiler.compileFilter, check_prunedItems compiler.filterFields within, ok_bind]
    exact compileItems_pruned [] items compiled answered
  have alike : prunedItems compiler.filterFields items = prunedItems compiler.filterFields others →
      ∀ compiled compiled', compiler.compileFilter items = .ok compiled →
        compiler.compileFilter others = .ok compiled' → compiled = compiled' := by
    intro same compiled compiled' answered answered'
    have one := traceless items compiled answered
    rw [same, traceless others compiled' answered'] at one
    cases one
    rfl
  refine ⟨traceless items, fun same => ⟨alike same, ?_⟩⟩
  intro lenient apart named within named' within'
  have answered := compileFilter_lenient apart lenient within named
  have answered' := compileFilter_lenient apart lenient within' named'
  refine ⟨_, answered, ?_⟩
  rw [answered', alike same _ _ answered answered']

/-- A filter on the title, with a condition that is dropped for its field and one that is dropped
for its comparator. -/
private def withDropped (hidden : Content) : List Item := [
  .group .every [.compare (.str "owner") .null hidden,
    .compare (.str "title") .null (.scalar (.str "a")),
    .compare (.str "title") (.str "$in") hidden]]

/-- A list that has a condition of its own. -/
private def hiddenList : Content :=
  .nested [.group .either [.compare (.str "remark") .null (.scalar (.str "b"))]]

theorem compileFilter_pruned_withDropped :
    ∃ compiled,
      Compiler.standard.compileFilter (withDropped (.scalar .null)) = .ok compiled ∧
        Compiler.standard.compileFilter (withDropped hiddenList) = .ok compiled :=
  ((compileFilter_pruned .standard (withDropped (.scalar .null)) (withDropped hiddenList)).2 rfl).2
    rfl (by decide)
    ⟨⟨rfl, trivial, rfl, trivial, rfl, trivial, trivial⟩, trivial⟩ rfl
    ⟨⟨rfl, ⟨⟨rfl, trivial, trivial⟩, trivial⟩, rfl, trivial, rfl,
      ⟨⟨rfl, trivial, trivial⟩, trivial⟩, trivial⟩, trivial⟩ rfl

end SurveyDesk.Query
