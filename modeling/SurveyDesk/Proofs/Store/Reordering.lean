import Mathlib.Data.List.Permutation
import SurveyDesk.Proofs.Store.Predicate
import SurveyDesk.Proofs.Value.Entries

/-! In which order a predicate asks makes no difference to its answer. Entries and alternatives are
tried one after another until the answer is known, so their order decides what is asked at all, and
with it whether a pattern is met that cannot be used; but two orders that both come to an answer
come to the same one. -/
namespace SurveyDesk.Predicate

mutual

/-- A predicate, and the same with its keys and its alternatives in another order, on this level and
on those below. -/
inductive Reordered : Value → Value → Prop where
  | entries {first aligned second : List (Text × Value)}
    (each : List.Forall₂ ReorderedEntry first aligned) (order : aligned.Perm second) :
    Reordered (.object first) (.object second)
  | same (predicate : Value) : Reordered predicate predicate

/-- One entry of a predicate, and an entry with its key. -/
inductive ReorderedEntry : Text × Value → Text × Value → Prop where
  | under (below : ReorderedUnder key expected other) : ReorderedEntry (key, expected) (key, other)

/-- What is expected under a key, and the same in another order: alternatives, a predicate over the
object at the path, or an operator, whose operand is left as it is. Whatever else is expected is the
same value. -/
inductive ReorderedUnder : Text → Value → Value → Prop where
  | alternatives {first aligned second : List Value}
    (each : List.Forall₂ Reordered first aligned) (order : aligned.Perm second) :
    ReorderedUnder orKey (.list first) (.list second)
  | predicate {first second : Entries} (plain : ∀ found, fragment? first ≠ .ok (some found))
    (inner : Reordered (.object first) (.object second)) :
    ReorderedUnder key (.object first) (.object second)
  | operator {first second : Entries} (found : fragment? first = .ok (some (operator, operand)))
    (order : first.Perm second) : ReorderedUnder key (.object first) (.object second)
  | same (expected : Value) : ReorderedUnder key expected expected

end

/-- Two evaluations answer alike if they both answer. -/
def Alike (first second : Except Fault Bool) : Prop :=
  ∀ answer other, first = .ok answer → second = .ok other → answer = other

variable {document : Value}

theorem Alike.refl (result : Except Fault Bool) : Alike result result := by
  intro answer other here there
  exact Except.ok.inj (here.symm.trans there)

/-! ## All entries, and one of several alternatives -/

theorem holdsAll_true {entries : List (Text × Value)} :
    holdsAll document entries = .ok true ↔
      ∀ entry ∈ entries, entryHolds document entry = .ok true := by
  induction entries with
  | nil => simp [holdsAll_nil]
  | cons entry rest ih =>
    rw [holdsAll_cons, List.forall_mem_cons, ← ih]
    cases entryHolds document entry with
    | error fault => simp
    | ok satisfied => cases satisfied <;> simp [pure_eq_ok]

theorem holdsAll_false {entries : List (Text × Value)}
    (answered : holdsAll document entries = .ok false) :
    ∃ entry ∈ entries, entryHolds document entry = .ok false := by
  induction entries with
  | nil => simp [holdsAll_nil] at answered
  | cons entry rest ih =>
    rw [holdsAll_cons] at answered
    obtain ⟨satisfied, here, answered⟩ := bind_eq_ok.mp answered
    cases satisfied with
    | false => exact ⟨entry, List.mem_cons_self, here⟩
    | true =>
      obtain ⟨other, later, fails⟩ := ih answered
      exact ⟨other, List.mem_cons_of_mem _ later, fails⟩

theorem holdsAny_false {branches : List Value} :
    holdsAny document branches = .ok false ↔
      ∀ branch ∈ branches, holds document branch = .ok false := by
  induction branches with
  | nil => simp [holdsAny_nil]
  | cons branch rest ih =>
    rw [holdsAny_cons, List.forall_mem_cons, ← ih]
    cases holds document branch with
    | error fault => simp
    | ok satisfied => cases satisfied <;> simp [pure_eq_ok]

theorem holdsAny_true {branches : List Value} (answered : holdsAny document branches = .ok true) :
    ∃ branch ∈ branches, holds document branch = .ok true := by
  induction branches with
  | nil => simp [holdsAny_nil] at answered
  | cons branch rest ih =>
    rw [holdsAny_cons] at answered
    obtain ⟨satisfied, here, answered⟩ := bind_eq_ok.mp answered
    cases satisfied with
    | true => exact ⟨branch, List.mem_cons_self, here⟩
    | false =>
      obtain ⟨other, later, holds⟩ := ih answered
      exact ⟨other, List.mem_cons_of_mem _ later, holds⟩

/-- What is satisfied in one order is not denied in another. -/
theorem holdsAll_not_false {entries others : List (Text × Value)}
    (counterparts : ∀ other ∈ others, ∃ entry ∈ entries,
      Alike (entryHolds document entry) (entryHolds document other))
    (satisfied : holdsAll document entries = .ok true) : holdsAll document others ≠ .ok false := by
  intro denied
  obtain ⟨other, member, fails⟩ := holdsAll_false denied
  obtain ⟨entry, present, alike⟩ := counterparts other member
  exact Bool.noConfusion (alike _ _ (holdsAll_true.mp satisfied entry present) fails)

/-- What fails in one order does not hold in another. -/
theorem holdsAny_not_true {branches others : List Value}
    (counterparts : ∀ other ∈ others, ∃ branch ∈ branches,
      Alike (holds document branch) (holds document other))
    (denied : holdsAny document branches = .ok false) : holdsAny document others ≠ .ok true := by
  intro satisfied
  obtain ⟨other, member, holds⟩ := holdsAny_true satisfied
  obtain ⟨branch, present, alike⟩ := counterparts other member
  exact Bool.noConfusion (alike _ _ (holdsAny_false.mp denied branch present) holds)

/-- Items related one by one, and one side then put in another order: each item of that side has its
counterpart. -/
theorem counterpart {α : Type} {R : α → α → Prop} {first aligned second : List α}
    (each : List.Forall₂ R first aligned) (order : aligned.Perm second) :
    ∀ other ∈ second, ∃ item ∈ first, R item other := by
  intro other member
  have member := order.mem_iff.mpr member
  clear order
  induction each with
  | nil => cases member
  | cons related _ ih =>
    rcases List.mem_cons.mp member with rfl | later
    · exact ⟨_, List.mem_cons_self, related⟩
    · obtain ⟨item, present, related⟩ := ih later
      exact ⟨item, List.mem_cons_of_mem _ present, related⟩

/-- And each item of the other side has one. -/
theorem counterpart_back {α : Type} {R : α → α → Prop} {first aligned second : List α}
    (each : List.Forall₂ R first aligned) (order : aligned.Perm second) :
    ∀ item ∈ first, ∃ other ∈ second, R item other := by
  intro item member
  obtain ⟨other, present, related⟩ := counterpart each.flip (.refl first) item member
  exact ⟨other, order.mem_iff.mp present, related⟩

theorem Alike.symm {first second : Except Fault Bool} (alike : Alike first second) :
    Alike second first :=
  fun answer other here there => (alike other answer there here).symm

/-- Entries that answer alike one by one are satisfied alike, in whatever order they are asked. -/
theorem holdsAll_alike {first aligned second : List (Text × Value)}
    (each : List.Forall₂ (fun entry other =>
      Alike (entryHolds document entry) (entryHolds document other)) first aligned)
    (order : aligned.Perm second) :
    Alike (holdsAll document first) (holdsAll document second) := by
  intro answer other here there
  cases answer with
  | true =>
    cases other with
    | true => rfl
    | false => exact absurd there (holdsAll_not_false (counterpart each order) here)
  | false =>
    cases other with
    | true =>
      refine absurd here (holdsAll_not_false (fun entry member => ?_) there)
      obtain ⟨other, present, alike⟩ := counterpart_back each order entry member
      exact ⟨other, present, alike.symm⟩
    | false => rfl

/-- Alternatives that answer alike one by one hold alike, in whatever order they are tried. -/
theorem holdsAny_alike {first aligned second : List Value}
    (each : List.Forall₂ (fun branch other =>
      Alike (holds document branch) (holds document other)) first aligned)
    (order : aligned.Perm second) :
    Alike (holdsAny document first) (holdsAny document second) := by
  intro answer other here there
  cases answer with
  | false =>
    cases other with
    | false => rfl
    | true => exact absurd there (holdsAny_not_true (counterpart each order) here)
  | true =>
    cases other with
    | false =>
      refine absurd here (holdsAny_not_true (fun branch member => ?_) there)
      obtain ⟨other, present, alike⟩ := counterpart_back each order branch member
      exact ⟨other, present, alike.symm⟩
    | true => rfl

/-! ## Operators in another order -/

theorem Operator.name_of_ofName? {name : Text} {operator : Operator}
    (named : Operator.ofName? name = some operator) : name = operator.name := by
  unfold Operator.ofName? at named
  split at named
  · cases named
    assumption
  · split at named
    · cases named
      assumption
    · cases named

/-- An object stands for an operator exactly if it has its two entries, in either order. -/
theorem fragment?_eq_some {entries : Entries} {operator : Operator} {operand : Value} :
    fragment? entries = .ok (some (operator, operand)) ↔
      entries.Perm [(operatorKey, .str operator.name), (operandKey, operand)] := by
  constructor
  · intro found
    unfold fragment? at found
    split at found
    · cases found
    rename_i two
    split at found
    iterate 2 cases found
    · rename_i named beside
      obtain ⟨known, ofName, same⟩ := Option.map_eq_some_iff.mp (Except.ok.inj found)
      cases same
      cases Operator.name_of_ofName? ofName
      have distinct : [(operatorKey, Value.str operator.name), (operandKey, operand)].Nodup := by
        simp [operatorKey, operandKey]
      have present : [(operatorKey, .str operator.name), (operandKey, operand)] ⊆ entries :=
        List.cons_subset.mpr ⟨Entries.mem_of_get? named,
          List.cons_subset.mpr ⟨Entries.mem_of_get? beside, List.nil_subset _⟩⟩
      refine ((List.subperm_of_subset distinct present).perm_of_length_le ?_).symm
      exact (not_ne_iff.mp two).le
    · cases found
  · intro order
    rcases List.perm_pair.mp order with rfl | rfl
    · exact fragment?_fragment operator operand
    · cases operator <;> rfl

theorem ReorderedUnder.text {text : Text} (below : ReorderedUnder key expected (.str text)) :
    expected = .str text := by
  cases below
  rfl

/-- Where an operator is found after a change of order, one was there before it. -/
theorem fragment?_reordered {first aligned second : Entries}
    (each : List.Forall₂ ReorderedEntry first aligned) (order : aligned.Perm second)
    (found : fragment? second = .ok (some (operator, operand))) :
    ∃ old, fragment? first = .ok (some (operator, old)) := by
  -- The name of the operator is a text, and a text has no other order.
  have pair := (order.trans (fragment?_eq_some.mp found)).symm
  obtain ⟨entries, related, sorted⟩ := List.perm_comp_forall₂ pair each.flip
  cases related with
  | cons named others =>
    cases others with
    | cons beside none =>
      cases none
      cases named with
      | under below =>
        cases below.text
        cases beside
        exact ⟨_, fragment?_eq_some.mpr sorted.symm⟩

theorem expectedHolds_operator {entries : Entries}
    (found : fragment? entries = .ok (some (operator, operand))) (actual : Option Value) :
    expectedHolds actual (.object entries) = operator.holds actual operand := by
  unfold expectedHolds
  rw [found]
  rfl

/-- An object that comes to an answer and is no operator can be told to be none. -/
theorem fragment?_of_answered {entries : Entries}
    (plain : ∀ found, fragment? entries ≠ .ok (some found))
    (answered : expectedHolds actual (.object entries) = .ok answer) :
    fragment? entries = .ok none := by
  cases read : fragment? entries with
  | error fault =>
    unfold expectedHolds at answered
    rw [read] at answered
    cases answered
  | ok fragment =>
    cases fragment with
    | none => rfl
    | some found => exact absurd read (plain found)

/-- Objects that are no operators are asked for alike if their entries are. -/
theorem expectedHolds_alike {first second : Entries} {actual : Option Value}
    (plain : ∀ found, fragment? first ≠ .ok (some found))
    (still : ∀ found, fragment? second ≠ .ok (some found))
    (inner : ∀ document, Alike (holdsAll document first) (holdsAll document second)) :
    Alike (expectedHolds actual (.object first)) (expectedHolds actual (.object second)) := by
  intro answer other here there
  rw [expectedHolds_predicate (fragment?_of_answered plain here)] at here
  rw [expectedHolds_predicate (fragment?_of_answered still there)] at there
  split at here
  · exact inner _ answer other here there
  · rename_i elsewhere
    split at there
    · exact (elsewhere _ rfl).elim
    · exact Except.ok.inj (here.symm.trans there)

/-- An object is no list of alternatives, whatever its entries are. -/
theorem alternativesHold_object_alike {first second : Entries}
    (length : first.length = second.length) :
    alternativesHold document (.object first) = alternativesHold document (.object second) := by
  simp only [alternativesHold, List.isEmpty_iff_length_eq_zero, length]

/-! ## Every level

What stands for a predicate level by level answers alike for every document, since a predicate below
a key is asked of the object found there. -/

mutual

theorem alike_of_reordered : (first : Value) → Reordered first second →
    ∀ document, Alike (holds document first) (holds document second)
  | _, .same predicate, document => .refl _
  | .object entries, .entries each order, document => by
    rw [holds_object, holds_object]
    exact holdsAll_alike ((entries_alike entries each).imp fun _ _ alike => alike document) order

theorem entries_alike : (entries : List (Text × Value)) →
    List.Forall₂ ReorderedEntry entries aligned →
    List.Forall₂ (fun entry other => ∀ document,
      Alike (entryHolds document entry) (entryHolds document other)) entries aligned
  | [], .nil => .nil
  | (key, expected) :: rest, .cons (.under below) others =>
    .cons (fun document => under_alike expected below document) (entries_alike rest others)

theorem branches_alike : (branches : List Value) →
    List.Forall₂ Reordered branches aligned →
    List.Forall₂ (fun branch other => ∀ document,
      Alike (holds document branch) (holds document other)) branches aligned
  | [], .nil => .nil
  | branch :: rest, .cons here others =>
    .cons (alike_of_reordered branch here) (branches_alike rest others)

theorem under_alike : (expected : Value) → ReorderedUnder key expected other →
    ∀ document, Alike (entryHolds document (key, expected)) (entryHolds document (key, other))
  | _, .same expected, document => .refl _
  | .list branches, .alternatives each order, document => by
    simp only [entryHolds, if_pos, alternativesHold_list]
    exact holdsAny_alike ((branches_alike branches each).imp fun _ _ alike => alike document) order
  | .object entries, .predicate plain inner, document => by
    cases inner with
    | same => exact .refl _
    | entries each order =>
      have inner : ∀ document, Alike (holdsAll document entries) (holdsAll document _) :=
        fun document => holdsAll_alike
          ((entries_alike entries each).imp fun _ _ alike => alike document) order
      have still : ∀ found, fragment? _ ≠ .ok (some found) := fun found read =>
        (fragment?_reordered each order read).elim fun old before => plain _ before
      unfold entryHolds
      split
      · rw [alternativesHold_object_alike (each.length_eq.trans order.length_eq)]
        exact .refl _
      · exact expectedHolds_alike plain still inner
  | .object entries, .operator found order, document => by
    have again := fragment?_eq_some.mpr (order.symm.trans (fragment?_eq_some.mp found))
    unfold entryHolds
    split
    · rw [alternativesHold_object_alike order.length_eq]
      exact .refl _
    · rw [expectedHolds_operator found, expectedHolds_operator again]
      exact .refl _

end

/-! ## Predicates put together -/

theorem holdsAll_append (first second : List (Text × Value)) :
    holdsAll document (first ++ second) = do
      if ← holdsAll document first then holdsAll document second else return false := by
  induction first with
  | nil => simp [holdsAll_nil]
  | cons entry rest ih =>
    rw [List.cons_append, holdsAll_cons, holdsAll_cons, ih]
    cases entryHolds document entry with
    | error fault => rfl
    | ok satisfied => cases satisfied <;> rfl

theorem holdsAny_append (first second : List Value) :
    holdsAny document (first ++ second) = (do
      if ← holdsAny document first then return true else holdsAny document second) := by
  induction first with
  | nil => simp [holdsAny_nil]
  | cons branch rest ih =>
    rw [List.cons_append, holdsAny_cons, holdsAny_cons, ih]
    cases holds document branch with
    | error fault => rfl
    | ok satisfied => cases satisfied <;> rfl

theorem holdsAll_singleton (entry : Text × Value) :
    holdsAll document [entry] = entryHolds document entry := by
  rw [holdsAll_cons, holdsAll_nil]
  cases entryHolds document entry with
  | error fault => rfl
  | ok satisfied => cases satisfied <;> rfl

theorem holdsAny_singleton (branch : Value) :
    holdsAny document [branch] = holds document branch := by
  rw [holdsAny_cons, holdsAny_nil]
  cases holds document branch with
  | error fault => rfl
  | ok satisfied => cases satisfied <;> rfl

/-- The alternatives alone, as a predicate. -/
theorem holds_alternatives (document : Value) (branches : List Value) :
    holds document (.object [(orKey, .list branches)]) = holdsAny document branches := by
  rw [holds_object, holdsAll_singleton, entryHolds, if_pos rfl, alternativesHold_list]

/-- Whatever order the keys and the alternatives of a predicate are in on any level, the answers it
comes to are the same. Two predicates over different keys put together ask for both. No alternative
is none that holds, and the alternatives of two lists hold where those of one of them do. -/
theorem order_leaves_answers (document : Value) :
    (∀ first second answer other, Reordered first second →
      holds document first = .ok answer → holds document second = .ok other → answer = other) ∧
    (∀ (first second : Entries) (here there : Bool), second.keys.Nodup →
      (∀ key ∈ second.keys, key ∉ first.keys) →
      holds document (.object first) = .ok here → holds document (.object second) = .ok there →
      holds document (.object (first.putAll second)) = .ok (here && there)) ∧
    holds document (.object [(orKey, .list [])]) = .ok false ∧
    (∀ (branches more : List Value) (here there : Bool),
      holds document (.object [(orKey, .list branches)]) = .ok here →
      holds document (.object [(orKey, .list more)]) = .ok there →
      holds document (.object [(orKey, .list (branches ++ more))]) = .ok (here || there)) := by
  refine ⟨?_, ?_, ?_, ?_⟩
  · intro first second answer other reordered here there
    exact alike_of_reordered first reordered document answer other here there
  · intro first second here there distinct apart holdsFirst holdsSecond
    rw [holds_object] at holdsFirst holdsSecond
    rw [Entries.putAll_of_disjoint first distinct apart, holds_object, holdsAll_append, holdsFirst,
      ok_bind, holdsSecond]
    cases here <;> rfl
  · rw [holds_alternatives, holdsAny_nil]
  · intro branches more here there holdsFirst holdsSecond
    rw [holds_alternatives] at holdsFirst holdsSecond
    rw [holds_alternatives, holdsAny_append, holdsFirst, ok_bind, holdsSecond]
    cases here <;> rfl

/-- A document with an object in it. -/
private def plainDocument : Value :=
  .object [("title", .str "tea"), ("state", .object [("name", .str "new"), ("step", .int 1)])]

/-- A title other than a given one, as a predicate has it. -/
private def otherTitle : Entries := [("title", Operator.notEqual.fragment (.str "milk"))]

private def alternativesAsked : List Value :=
  [.object [("title", .str "milk")],
    .object [("state", .object [("name", .str "new"), ("step", .int 1)])]]

private def alternativesTurned : List Value :=
  [.object [("state", .object [("step", .int 1), ("name", .str "new")])],
    .object [("title", .str "milk")]]

private def alternativesFirst : Entries := (orKey, .list alternativesAsked) :: otherTitle

private def alternativesLast : Entries := otherTitle ++ [(orKey, .list alternativesTurned)]

private theorem reordered_turned :
    Reordered (.object alternativesFirst) (.object alternativesLast) := by
  refine .entries (.cons (.under (.alternatives (.cons (.same _) (.cons ?_ .nil)) (.swap _ _ _)))
    (.cons (.under (.same _)) .nil)) (.swap _ _ _)
  refine .entries (.cons (.under (.predicate ?_ ?_)) .nil) (.refl _)
  · intro found operator
    cases operator
  · exact .entries (.cons (.under (.same _)) (.cons (.under (.same _)) .nil)) (.swap _ _ _)

/-- Keys, alternatives and the keys of an alternative in another order; a predicate put together
with alternatives; and alternatives put together with others. -/
theorem order_leaves_answers_tea :
    (∃ answer other, Reordered (.object alternativesFirst) (.object alternativesLast) ∧
      holds plainDocument (.object alternativesFirst) = .ok answer ∧
      holds plainDocument (.object alternativesLast) = .ok other ∧ answer = other) ∧
    holds plainDocument (.object (otherTitle.putAll [(orKey, .list alternativesAsked)])) =
      .ok (true && true) ∧
    holds plainDocument (.object [(orKey, .list (alternativesAsked ++ []))]) =
      .ok (true || false) := by
  have first : holds plainDocument (.object alternativesFirst) = .ok true := by
    with_unfolding_all rfl
  have last : holds plainDocument (.object alternativesLast) = .ok true := by
    with_unfolding_all rfl
  have title : holds plainDocument (.object otherTitle) = .ok true := by with_unfolding_all rfl
  have either : holds plainDocument (.object [(orKey, .list alternativesAsked)]) = .ok true := by
    with_unfolding_all rfl
  have neither : holds plainDocument (.object [(orKey, .list [])]) = .ok false := by
    with_unfolding_all rfl
  have laws := order_leaves_answers plainDocument
  exact ⟨⟨true, true, reordered_turned, first, last, laws.1 _ _ _ _ reordered_turned first last⟩,
    laws.2.1 otherTitle _ true true (by decide) (by decide) title either,
    laws.2.2.2 _ _ true false either neither⟩

end SurveyDesk.Predicate
