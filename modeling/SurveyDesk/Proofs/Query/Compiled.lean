import SurveyDesk.Proofs.Fault
import SurveyDesk.Proofs.Filter.Meaning
import SurveyDesk.Proofs.Store.Predicate
import SurveyDesk.Query.Compiler

/-! The form of a compiled filter. Whatever a compiler answers for a list of items is the object
that the list stands for as data. -/
namespace SurveyDesk.Query
open SurveyDesk.Filter (Item Condition Content Combinator Comparison clause? conditionPairs
  itemPairs alternativeData listData)

private theorem operatorOf?_eq (comparator : Value) (given : comparator ≠ .null) (operand : Value) :
    (operatorOf? comparator).map (·.fragment operand) =
      (Comparison.of? comparator).map (·.expected operand) := by
  cases comparator with
  | null => exact absurd rfl given
  | str text =>
    unfold operatorOf? Comparison.of?
    by_cases different : text = "$ne"
    · subst different
      rfl
    · by_cases matching : text = "$regex"
      · subst matching
        rfl
      · simp [different, matching]
  | _ => rfl

theorem expectation?_eq (comparator operand : Value) :
    expectation? comparator operand = (Comparison.of? comparator).map (·.expected operand) := by
  unfold expectation?
  split
  · rfl
  · exact operatorOf?_eq comparator ‹_› operand

/-- A condition counts if its field can be looked up and its comparator is known. -/
theorem clause?_of_allowed? {fields : List Text} {field : Value} {named : Option Text}
    (looked : allowed? fields field = .ok named) (comparator : Value) :
    clause? fields field comparator =
      named.bind fun name => (Comparison.of? comparator).map (name, ·) := by
  unfold clause?
  cases field with
  | str text =>
    cases looked
    by_cases listed : text ∈ fields <;> cases Comparison.of? comparator <;> simp [listed]
  | list _ | object _ => cases looked
  | _ =>
    cases looked
    rfl

theorem clause?_some {fields : List Text} {field comparator : Value}
    (counts : clause? fields field comparator = some (name, comparison)) :
    name ∈ fields ∧ field = .str name ∧ Comparison.of? comparator = some comparison := by
  unfold clause? at counts
  split at counts
  · split at counts
    · cases counts
      exact ⟨‹_›, rfl, ‹_›⟩
    · cases counts
  · cases counts

theorem conditionPairs_fields {fields : List Text} : ∀ {conditions : List Condition},
    pair ∈ conditionPairs fields conditions → pair.1 ∈ fields
  | .compare field comparator content :: rest, member => by
    unfold conditionPairs at member
    split at member
    · rename_i name comparison counts
      rcases List.mem_cons.mp member with rfl | later
      · exact (clause?_some counts).1
      · exact conditionPairs_fields later
    · exact conditionPairs_fields member

/-! ## One more item -/

section
variable {fields : List Text}

theorem itemPairs_append (alternatives : List Value) (first second : List Item) :
    itemPairs fields alternatives (first ++ second) =
      itemPairs fields alternatives first ++ itemPairs fields alternatives second := by
  induction first with
  | nil => rfl
  | cons item rest ih =>
    obtain ⟨combinator, conditions⟩ := item
    cases combinator <;> simp only [List.cons_append, itemPairs, ih, List.append_assoc]

theorem alternativeData_append (first second : List Item) :
    alternativeData fields (first ++ second) =
      alternativeData fields first ++ alternativeData fields second := by
  induction first with
  | nil => rfl
  | cons item rest ih =>
    obtain ⟨combinator, conditions⟩ := item
    cases combinator <;> simp only [List.cons_append, alternativeData, ih]

theorem lastOn_conditionPairs_orKey (apart : Predicate.orKey ∉ fields)
    (conditions : List Condition) :
    lastOn Predicate.orKey (conditionPairs fields conditions) = none :=
  lastOn_eq_none.mpr fun _ member same => apart (same ▸ conditionPairs_fields member)

/-- The alternatives of a list of items stand under a key of their own. -/
theorem lastOn_orKey (apart : Predicate.orKey ∉ fields) (alternatives : List Value)
    (items : List Item) :
    lastOn Predicate.orKey (itemPairs fields alternatives items) =
      if alternativeData fields items = [] then none else some (.list alternatives) := by
  induction items with
  | nil => rfl
  | cons item rest ih =>
    obtain ⟨combinator, conditions⟩ := item
    cases combinator with
    | every =>
      rw [itemPairs, lastOn_append, ih, lastOn_conditionPairs_orKey apart, Option.or_none]
      rfl
    | either =>
      rw [itemPairs, lastOn, ih, if_pos rfl, alternativeData, if_neg (List.cons_ne_nil _ _)]
      split <;> rfl

/-- Which alternatives there are makes no difference to any other key. -/
theorem lastOn_itemPairs (alternatives others : List Value) (items : List Item)
    (apart : name ≠ Predicate.orKey) :
    lastOn name (itemPairs fields alternatives items) =
      lastOn name (itemPairs fields others items) := by
  induction items with
  | nil => rfl
  | cons item rest ih =>
    obtain ⟨combinator, conditions⟩ := item
    cases combinator with
    | every => rw [itemPairs, itemPairs, lastOn_append, lastOn_append, ih]
    | either =>
      rw [itemPairs, itemPairs, lastOn, lastOn, ih, if_neg (Ne.symm apart), if_neg (Ne.symm apart)]

theorem keys_itemPairs (alternatives others : List Value) (items : List Item) :
    Entries.keys (itemPairs fields alternatives items) =
      Entries.keys (itemPairs fields others items) := by
  induction items with
  | nil => rfl
  | cons item rest ih =>
    obtain ⟨combinator, conditions⟩ := item
    cases combinator with
    | every => rw [itemPairs, itemPairs, Entries.keys_append, Entries.keys_append, ih]
    | either => rw [itemPairs, itemPairs, Entries.keys_cons, Entries.keys_cons, ih]

theorem itemPairs_fields {alternatives : List Value} {items : List Item}
    (member : pair ∈ itemPairs fields alternatives items) :
    pair.1 ∈ fields ∨ pair = (Predicate.orKey, .list alternatives) := by
  induction items with
  | nil => cases member
  | cons item rest ih =>
    obtain ⟨combinator, conditions⟩ := item
    cases combinator with
    | every =>
      rcases List.mem_append.mp member with here | later
      · exact Or.inl (conditionPairs_fields here)
      · exact ih later
    | either =>
      rcases List.mem_cons.mp member with here | later
      · exact Or.inr here
      · exact ih later

/-- What is put together from fields of which not both keys of an operator are allowed is never
taken for an operator. -/
theorem fragment?_ofPairs
    (notBoth : ¬ (Predicate.operatorKey ∈ fields ∧ Predicate.operandKey ∈ fields))
    {pairs : List (Text × Value)}
    (each : ∀ pair ∈ pairs, pair.1 ∈ fields ∨ pair.1 = Predicate.orKey) :
    Predicate.fragment? (Entries.ofPairs pairs) = .ok none := by
  have absent : ∀ name, name ∉ fields → name ≠ Predicate.orKey →
      (Entries.ofPairs pairs).get? name = none := by
    intro name outside apart
    rw [Entries.get?_ofPairs, lastOn_eq_none]
    rintro pair member rfl
    rcases each pair member with inside | here
    · exact outside inside
    · exact apart here
  apply Predicate.fragment?_of_missing
  rcases Decidable.not_and_iff_not_or_not.mp notBoth with outside | outside
  · exact Or.inl (absent _ outside (by decide))
  · exact Or.inr (absent _ outside (by decide))

theorem fragment?_listData
    (notBoth : ¬ (Predicate.operatorKey ∈ fields ∧ Predicate.operandKey ∈ fields))
    (items : List Item) : Predicate.fragment? (listData fields items) = .ok none :=
  fragment?_ofPairs notBoth fun _ member =>
    (itemPairs_fields member).imp_right (congrArg Prod.fst)

theorem listData_every (done : List Item) (conditions : List Condition) :
    listData fields (done ++ [.group .every conditions]) =
      (listData fields done).putAll (conditionPairs fields conditions) := by
  unfold listData
  rw [alternativeData_append, itemPairs_append, Entries.ofPairs, Entries.putAll_append]
  simp only [alternativeData, itemPairs, List.append_nil]
  rfl

theorem listData_either (done : List Item) (conditions : List Condition) :
    listData fields (done ++ [.group .either conditions]) =
      (listData fields done).put Predicate.orKey (.list (alternativeData fields done ++
        [.object (Entries.ofPairs (conditionPairs fields conditions))])) := by
  unfold listData
  rw [alternativeData_append, itemPairs_append, Entries.ofPairs, Entries.putAll_append]
  simp only [alternativeData, itemPairs, Entries.putAll_cons, Entries.putAll_nil]
  exact Entries.put_ofPairs_congr (keys_itemPairs _ _ done)
    (fun name apart => lastOn_itemPairs _ _ done apart) _

/-- Joining the conditions of one more item gives what all items together stand for. -/
theorem joined_listData (apart : Predicate.orKey ∉ fields) (combinator : Combinator)
    (done : List Item) (conditions : List Condition) :
    joined combinator (listData fields done) (Entries.ofPairs (conditionPairs fields conditions)) =
      .ok (listData fields (done ++ [.group combinator conditions])) := by
  cases combinator with
  | every =>
    rw [joined, listData_every]
    exact congrArg Except.ok (Entries.putAll_ofPairs (Entries.nodup_ofPairs _) _)
  | either =>
    have alternatives : (listData fields done).get? Predicate.orKey =
        if alternativeData fields done = [] then none
        else some (.list (alternativeData fields done)) := by
      rw [listData, Entries.get?_ofPairs, lastOn_orKey apart]
    rw [joined, withAlternative, alternatives, listData_either]
    split
    · rename_i found
      split at found
      · rename_i empty
        rw [empty, List.nil_append]
      · cases found
    · rename_i others found
      split at found
      · cases found
      · cases found
        rfl
    · rename_i other notList found
      split at found
      · cases found
      · cases found
        exact absurd rfl (notList _)

end

/-! ## Whole filters -/

section
variable {compiler : Compiler}

/-- What a condition does where it is compiled: it is dropped for its field, or for its comparator
after what it compares with is compiled, or it puts what is expected under its field. -/
theorem compileConditions_cons_eq_ok {before : Entries} :
    compileConditions compiler before (.compare field comparator content :: rest) = .ok compiled ↔
      (allowed? compiler.filterFields field = .ok none ∧
        compileConditions compiler before rest = .ok compiled) ∨
      ∃ name operand, allowed? compiler.filterFields field = .ok (some name) ∧
        compileContent compiler content = .ok operand ∧
        ((Comparison.of? comparator = none ∧
            compileConditions compiler before rest = .ok compiled) ∨
          ∃ comparison, Comparison.of? comparator = some comparison ∧
            ¬ (compiler.strict && before.has name) ∧
            compileConditions compiler (before.put name (comparison.expected operand)) rest =
              .ok compiled) := by
  rw [compileConditions]
  cases allowed? compiler.filterFields field with
  | error refusal => simp
  | ok named =>
    cases named with
    | none => simp
    | some name =>
      cases compileContent compiler content with
      | error refusal => simp
      | ok operand =>
        simp only [ok_bind, expectation?_eq]
        cases Comparison.of? comparator with
        | none => simp
        | some comparison =>
          simp [guarded_eq_ok]

mutual

theorem compileItems_eq (apart : Predicate.orKey ∉ compiler.filterFields) :
    ∀ (done rest : List Item) (compiled : Entries),
      compileItems compiler (listData compiler.filterFields done) rest = .ok compiled →
        compiled = listData compiler.filterFields (done ++ rest)
  | done, [], compiled, answered => by
    cases answered
    rw [List.append_nil]
  | done, .group combinator conditions :: rest, compiled, answered => by
    obtain ⟨pairs, first, answered⟩ := bind_eq_ok.mp answered
    have put := compileConditions_eq apart conditions [] pairs first
    have step := joined_listData apart combinator done conditions
    have later := compileItems_eq apart (done ++ [.group combinator conditions]) rest compiled
    rw [put, show Entries.putAll [] _ = Entries.ofPairs _ from rfl, step] at answered
    rw [later answered, List.append_assoc, List.singleton_append]

theorem compileConditions_eq (apart : Predicate.orKey ∉ compiler.filterFields) :
    ∀ (conditions : List Condition) (before compiled : Entries),
      compileConditions compiler before conditions = .ok compiled →
        compiled = before.putAll (conditionPairs compiler.filterFields conditions)
  | [], before, compiled, answered => by
    cases answered
    rfl
  | .compare field comparator content :: rest, before, compiled, answered => by
    unfold conditionPairs
    rcases compileConditions_cons_eq_ok.mp answered with
      ⟨looked, answered⟩ | ⟨name, operand, looked, found, outcome⟩
    · rw [clause?_of_allowed? looked comparator]
      exact compileConditions_eq apart rest before compiled answered
    · rw [clause?_of_allowed? looked comparator]
      rcases outcome with ⟨unknown, answered⟩ | ⟨comparison, known, -, answered⟩
      · rw [unknown]
        exact compileConditions_eq apart rest before compiled answered
      · rw [known, compileConditions_eq apart rest _ compiled answered,
          compileContent_eq apart content operand found]
        rfl

theorem compileContent_eq (apart : Predicate.orKey ∉ compiler.filterFields) :
    ∀ (content : Content) (compiled : Value),
      compileContent compiler content = .ok compiled →
        compiled = content.data compiler.filterFields
  | .scalar value, compiled, answered => by
    cases answered
    rfl
  | .nested items, compiled, answered => by
    obtain ⟨entries, found, answered⟩ := bind_eq_ok.mp answered
    cases answered
    exact congrArg Value.object (compileItems_eq apart [] items entries found)

end

/-- Whatever is compiled is the object that the filter stands for as data. -/
theorem compileFilter_eq (apart : Predicate.orKey ∉ compiler.filterFields)
    (answered : compiler.compileFilter items = .ok compiled) :
    compiled = listData compiler.filterFields items := by
  obtain ⟨_, _, answered⟩ := bind_eq_ok.mp answered
  exact compileItems_eq apart [] items compiled answered

end

end SurveyDesk.Query
