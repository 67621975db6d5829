import SurveyDesk.Proofs.Filter.Shape
import SurveyDesk.Proofs.Query.Compiled

/-! What a client can make a compiler write. A compiled filter is made of predicates, operators and
scalars, each in its place at every depth, whatever the filter names or compares with; so nothing
that the client sent is evaluated as an operator, and no operator as a predicate. -/
namespace SurveyDesk.Query
open SurveyDesk.Filter (Item Condition Content Combinator Comparison conditionPairs itemPairs
  alternativeData listData ConditionsTyped ItemsTyped ContentTyped isScalar)

mutual

/-- A predicate: an object that is not taken for an operator, whose keys are allowed fields and
perhaps the key of alternatives, each once. -/
inductive IsPredicate (fields : List Text) : Value → Prop where
  | object (distinct : entries.keys.Nodup) (apart : Predicate.fragment? entries = .ok none)
      (each : ∀ entry ∈ entries, IsEntry fields entry) : IsPredicate fields (.object entries)

/-- An entry of a predicate: at least one alternative, or what is expected of a field. -/
inductive IsEntry (fields : List Text) : Text × Value → Prop where
  | alternatives (some : branches ≠ []) (each : ∀ branch ∈ branches, IsPredicate fields branch) :
      IsEntry fields (Predicate.orKey, .list branches)
  | field (allowed : name ∈ fields) (expected : IsExpected fields value) :
      IsEntry fields (name, value)

/-- What is expected of a field: an operand itself, or an operator with one. -/
inductive IsExpected (fields : List Text) : Value → Prop where
  | plain (operand : IsOperand fields value) : IsExpected fields value
  | operator (operator : Predicate.Operator) (operand : IsOperand fields value) :
      IsExpected fields (operator.fragment value)

/-- An operand: a scalar or a predicate. -/
inductive IsOperand (fields : List Text) : Value → Prop where
  | scalar (plain : isScalar value) : IsOperand fields value
  | predicate (nested : IsPredicate fields value) : IsOperand fields value

end

section
variable {fields : List Text}

theorem isExpected_expected (comparison : Comparison) (operand : IsOperand fields value) :
    IsExpected fields (comparison.expected value) := by
  cases comparison with
  | equal => exact .plain operand
  | different => exact .operator .notEqual operand
  | matching => exact .operator .regexMatch operand

/-- Entries that are put together from allowed fields and alternatives are a predicate if they
cannot be taken for an operator. -/
theorem isPredicate_ofPairs {pairs : List (Text × Value)}
    (apart : Predicate.fragment? (Entries.ofPairs pairs) = .ok none)
    (each : ∀ key value, lastOn key pairs = some value → IsEntry fields (key, value)) :
    IsPredicate fields (.object (Entries.ofPairs pairs)) := by
  refine .object (Entries.nodup_ofPairs pairs) apart ?_
  rintro ⟨key, value⟩ member
  exact each key value (Entries.mem_ofPairs_iff.mp member)

/-- A list of items stands for a predicate if its conditions and its alternatives do. -/
theorem isPredicate_of_entries (apart : Predicate.orKey ∉ fields)
    (notBoth : ¬ (Predicate.operatorKey ∈ fields ∧ Predicate.operandKey ∈ fields))
    (items : List Item)
    (each : ∀ pair ∈ itemPairs fields (alternativeData fields items) items,
      IsEntry fields pair ∨ pair = (Predicate.orKey, .list (alternativeData fields items)))
    (either : ∀ branch ∈ alternativeData fields items, IsPredicate fields branch) :
    IsPredicate fields (.object (listData fields items)) := by
  refine isPredicate_ofPairs (fragment?_listData notBoth items) fun key value last => ?_
  rcases each (key, value) (mem_of_lastOn last) with entry | here
  · exact entry
  · cases here
    rw [lastOn_orKey apart] at last
    split at last
    · cases last
    · exact .alternatives ‹_› either

mutual

theorem conditionPairs_entries (apart : Predicate.orKey ∉ fields)
    (notBoth : ¬ (Predicate.operatorKey ∈ fields ∧ Predicate.operandKey ∈ fields)) :
    ∀ (conditions : List Condition) (pair : Text × Value), ConditionsTyped conditions →
      pair ∈ conditionPairs fields conditions → IsEntry fields pair
  | .compare field comparator content :: rest, pair, typed, member => by
    unfold conditionPairs at member
    split at member
    · rename_i name comparison counts
      rcases List.mem_cons.mp member with rfl | later
      · have operand := isOperand_data apart notBoth content typed.2.2.1
        exact .field (clause?_some counts).1 (isExpected_expected comparison operand)
      · exact conditionPairs_entries apart notBoth rest pair typed.2.2.2 later
    · exact conditionPairs_entries apart notBoth rest pair typed.2.2.2 member

theorem itemPairs_entries (apart : Predicate.orKey ∉ fields)
    (notBoth : ¬ (Predicate.operatorKey ∈ fields ∧ Predicate.operandKey ∈ fields)) :
    ∀ (items : List Item) (alternatives : List Value) (pair : Text × Value), ItemsTyped items →
      pair ∈ itemPairs fields alternatives items →
        IsEntry fields pair ∨ pair = (Predicate.orKey, .list alternatives)
  | .group .every conditions :: rest, alternatives, pair, typed, member => by
    rcases List.mem_append.mp member with here | later
    · exact Or.inl (conditionPairs_entries apart notBoth conditions pair typed.1 here)
    · exact itemPairs_entries apart notBoth rest alternatives pair typed.2 later
  | .group .either _ :: rest, alternatives, pair, typed, member => by
    rcases List.mem_cons.mp member with here | later
    · exact Or.inr here
    · exact itemPairs_entries apart notBoth rest alternatives pair typed.2 later

theorem alternativeData_predicates (apart : Predicate.orKey ∉ fields)
    (notBoth : ¬ (Predicate.operatorKey ∈ fields ∧ Predicate.operandKey ∈ fields)) :
    ∀ (items : List Item) (branch : Value), ItemsTyped items →
      branch ∈ alternativeData fields items → IsPredicate fields branch
  | .group .every _ :: rest, branch, typed, member =>
    alternativeData_predicates apart notBoth rest branch typed.2 member
  | .group .either conditions :: rest, branch, typed, member => by
    rcases List.mem_cons.mp member with rfl | later
    · refine isPredicate_ofPairs ?_ fun key value last =>
        conditionPairs_entries apart notBoth conditions _ typed.1 (mem_of_lastOn last)
      exact fragment?_ofPairs notBoth fun _ member => Or.inl (conditionPairs_fields member)
    · exact alternativeData_predicates apart notBoth rest branch typed.2 later

theorem isOperand_data (apart : Predicate.orKey ∉ fields)
    (notBoth : ¬ (Predicate.operatorKey ∈ fields ∧ Predicate.operandKey ∈ fields)) :
    ∀ content : Content, ContentTyped content → IsOperand fields (content.data fields)
  | .scalar value, typed => .scalar typed
  | .nested items, typed => by
    refine .predicate (isPredicate_of_entries apart notBoth items ?_ ?_)
    · exact fun pair => itemPairs_entries apart notBoth items _ pair typed
    · exact fun branch => alternativeData_predicates apart notBoth items branch typed

end

end

/-- Whatever a compiler answers for a filter that was read is a predicate, for any limits, strict or
not, as long as neither the key of alternatives nor both keys of an operator are allowed as
fields. -/
theorem compileFilter_isPredicate {compiler : Compiler}
    (apart : Predicate.orKey ∉ compiler.filterFields)
    (notBoth : ¬ (Predicate.operatorKey ∈ compiler.filterFields ∧
      Predicate.operandKey ∈ compiler.filterFields))
    (read : Filter.readFilter payload = .ok items)
    (answered : compiler.compileFilter items = .ok compiled) :
    IsPredicate compiler.filterFields (.object compiled) := by
  have typed := Filter.itemsTyped_of_readFilter read
  rw [compileFilter_eq apart answered]
  refine isPredicate_of_entries apart notBoth items ?_ ?_
  · exact fun pair => itemPairs_entries apart notBoth items _ pair typed
  · exact fun branch => alternativeData_predicates apart notBoth items branch typed

/-- A filter whose nested list names both keys of an operator. -/
private def forged : Value := .list [.object [("condition", .list [
  .object [("field", .str "curStatus"), ("value", .list [.object [("condition", .list [
    .object [("field", .str "op"), ("value", .str "NOT_EQUAL")],
    .object [("field", .str "value"), ("value", .str "removed")]])]])]])]]

private def forgedItems : List Item := [.group .every [
  .compare (.str "curStatus") .null (.nested [.group .every [
    .compare (.str "op") .null (.scalar (.str "NOT_EQUAL")),
    .compare (.str "value") .null (.scalar (.str "removed"))]])]]

/-- A strict compiler that allows one of the two keys of an operator. -/
private def strictCompiler : Compiler := ⟨["curStatus", "op"], [], .standard, true⟩

theorem compileFilter_isPredicate_forged :
    Filter.readFilter forged = .ok forgedItems ∧
    strictCompiler.compileFilter forgedItems =
      .ok [("curStatus", .object [("op", .str "NOT_EQUAL")])] ∧
    IsPredicate strictCompiler.filterFields
      (.object [("curStatus", .object [("op", .str "NOT_EQUAL")])]) := by
  have read : Filter.readFilter forged = .ok forgedItems := rfl
  have answered : strictCompiler.compileFilter forgedItems =
      .ok [("curStatus", .object [("op", .str "NOT_EQUAL")])] := rfl
  exact ⟨read, answered, compileFilter_isPredicate (by decide) (by decide) read answered⟩

end SurveyDesk.Query
