import SurveyDesk.Proofs.Query.Strictness
import SurveyDesk.Proofs.Query.WorkList

/-! Compiling is a recursion over the lists nested in a filter. The check of the limits comes first,
refuses exactly the filters that are beyond a limit, and with that bounds how deep the recursion can
go. -/
namespace SurveyDesk.Query
open SurveyDesk.Filter (Item Condition Content)

/-! ## A bound on the recursion -/

mutual

/-- The predicate of a list of items, compiled with a recursion that may go so many levels down.
Where it would have to go further it stops, for no reason of the compiler's own. -/
def compileItemsWithin (compiler : Compiler) (levels : Nat) (compiled : Entries) :
    List Item → Except (Option Refusal) Entries
  | [] => .ok compiled
  | .group combinator conditions :: rest => do
    let conditions ← compileConditionsWithin compiler levels [] conditions
    compileItemsWithin compiler levels
      (← (joined combinator compiled conditions).mapError some) rest

/-- The predicate of the conditions of one item, compiled with a recursion that may go so many
levels down. -/
def compileConditionsWithin (compiler : Compiler) (levels : Nat) (compiled : Entries) :
    List Condition → Except (Option Refusal) Entries
  | [] => .ok compiled
  | .compare field comparator content :: rest => do
    match ← (allowed? compiler.filterFields field).mapError some with
    | none => compileConditionsWithin compiler levels compiled rest
    | some field =>
      match expectation? comparator (← compileContentWithin compiler levels content) with
      | none => compileConditionsWithin compiler levels compiled rest
      | some expected =>
        if compiler.strict && compiled.has field then throw (some (.repeatedField field))
        else compileConditionsWithin compiler levels (compiled.put field expected) rest

/-- What a condition compares with, compiled with a recursion that may go so many levels down. -/
def compileContentWithin (compiler : Compiler) : Nat → Content → Except (Option Refusal) Value
  | _, .scalar value => .ok value
  | 0, .nested _ => .error none
  | levels + 1, .nested items => do
    return .object (← compileItemsWithin compiler levels [] items)

end

/-- The predicate of a filter, compiled with a recursion of so many levels of items at most, its own
level counted. -/
def Compiler.compileFilterWithin (compiler : Compiler) (levels : Nat) (items : List Item) :
    Except (Option Refusal) Entries :=
  match levels with
  | 0 => .error none
  | below + 1 => compileItemsWithin compiler below [] items

variable {compiler : Compiler}

mutual

theorem compileItemsWithin_eq : ∀ (levels : Nat) (compiled : Entries) (items : List Item),
    depthBelow items ≤ levels → compileItemsWithin compiler levels compiled items =
      (compileItems compiler compiled items).mapError some
  | levels, compiled, [], _ => rfl
  | levels, compiled, .group combinator conditions :: rest, bounded => by
    obtain ⟨inside, behind⟩ := Nat.max_le.mp bounded
    rw [compileItemsWithin, compileItems, compileConditionsWithin_eq levels [] conditions inside]
    simp only [mapError_bind, fun compiled => compileItemsWithin_eq levels compiled rest behind]

theorem compileConditionsWithin_eq : ∀ (levels : Nat) (compiled : Entries)
    (conditions : List Condition), conditionsDepth conditions ≤ levels →
      compileConditionsWithin compiler levels compiled conditions =
        (compileConditions compiler compiled conditions).mapError some
  | levels, compiled, [], _ => rfl
  | levels, compiled, .compare field comparator content :: rest, bounded => by
    obtain ⟨inside, behind⟩ := Nat.max_le.mp bounded
    have onward := fun compiled => compileConditionsWithin_eq levels compiled rest behind
    rw [compileConditionsWithin, compileConditions, mapError_bind,
      compileContentWithin_eq levels content inside]
    cases allowed? compiler.filterFields field with
    | error refusal => rfl
    | ok named =>
      cases named with
      | none => exact onward compiled
      | some name =>
        cases compileContent compiler content with
        | error refusal => rfl
        | ok operand =>
          simp only [mapError_ok, ok_bind]
          cases expectation? comparator operand with
          | none => exact onward compiled
          | some expected =>
            dsimp only
            split
            · rfl
            · exact onward _

theorem compileContentWithin_eq : ∀ (levels : Nat) (content : Content),
    contentDepth content ≤ levels →
      compileContentWithin compiler levels content = (compileContent compiler content).mapError some
  | levels, .scalar value, _ => by
    rw [compileContentWithin, compileContent, mapError_ok]
  | 0, .nested items, bounded => absurd bounded (Nat.not_succ_le_zero _)
  | levels + 1, .nested items, bounded => by
    rw [compileContentWithin, compileContent,
      compileItemsWithin_eq levels [] items (Nat.le_of_succ_le_succ bounded), mapError_bind]
    rfl

end

/-- A recursion that may go as far down as a filter has levels never has to go further. -/
theorem compileFilterWithin_eq {levels : Nat} (bounded : depth items ≤ levels) :
    compiler.compileFilterWithin levels items = (compileItems compiler [] items).mapError some := by
  cases levels with
  | zero => exact absurd bounded (Nat.not_succ_le_zero _)
  | succ below => exact compileItemsWithin_eq below [] items (Nat.le_of_succ_le_succ bounded)

/-! ## Refusals -/

theorem allowed?_error (refused : allowed? fields field = .error refusal) : ¬ refusal.IsLimit := by
  cases field <;> cases refused <;> exact id

theorem joined_error (refused : joined combinator predicate conditions = .error refusal) :
    ¬ refusal.IsLimit := by
  cases combinator with
  | every => cases refused
  | either =>
    rw [joined, withAlternative] at refused
    split at refused <;> cases refused
    exact id

mutual

/-- Compiling itself knows no limits. -/
theorem compileItems_error : ∀ (compiled : Entries) (items : List Item),
    compileItems compiler compiled items = .error refusal → ¬ refusal.IsLimit
  | compiled, [], refused => by cases refused
  | compiled, .group combinator conditions :: rest, refused => by
    rcases bind_eq_error.mp refused with inside | ⟨pairs, -, refused⟩
    · exact compileConditions_error [] conditions inside
    · rcases bind_eq_error.mp refused with joins | ⟨joint, -, behind⟩
      · exact joined_error joins
      · exact compileItems_error joint rest behind

theorem compileConditions_error : ∀ (compiled : Entries) (conditions : List Condition),
    compileConditions compiler compiled conditions = .error refusal → ¬ refusal.IsLimit
  | compiled, [], refused => by cases refused
  | compiled, .compare field comparator content :: rest, refused => by
    have behind : ∀ compiled, compileConditions compiler compiled rest = .error refusal →
        ¬ refusal.IsLimit := fun compiled => compileConditions_error compiled rest
    rcases bind_eq_error.mp refused with looks | ⟨named, -, refused⟩
    · exact allowed?_error looks
    · cases named with
      | none => exact behind compiled refused
      | some name =>
        rcases bind_eq_error.mp refused with inside | ⟨operand, -, refused⟩
        · exact compileContent_error content inside
        · cases known : expectation? comparator operand with
          | none =>
            rw [known] at refused
            exact behind compiled refused
          | some expected =>
            rw [known] at refused
            dsimp only at refused
            split at refused
            · cases refused
              exact id
            · exact behind _ refused

theorem compileContent_error : ∀ content : Content,
    compileContent compiler content = .error refusal → ¬ refusal.IsLimit
  | .scalar value, refused => by cases refused
  | .nested items, refused => by
    rcases bind_eq_error.mp refused with inside | ⟨entries, -, refused⟩
    · exact compileItems_error [] items inside
    · cases refused

end

/-- A compiler refuses a filter for a limit exactly if the check does. -/
theorem compileFilter_isLimit_iff :
    (∃ refusal, compiler.compileFilter items = .error refusal ∧ refusal.IsLimit) ↔
      compiler.limits.check items ≠ .ok () := by
  constructor
  · rintro ⟨refusal, refused, limit⟩ within
    rw [Compiler.compileFilter, within, ok_bind] at refused
    exact compileItems_error [] items refused limit
  · intro beyond
    cases checked : compiler.limits.check items with
    | ok _ => exact absurd checked beyond
    | error refusal =>
      refine ⟨refusal, ?_, Limits.check_error checked⟩
      rw [Compiler.compileFilter, checked, error_bind]

/-- A filter is refused for a limit exactly if it has more levels of items than allowed or more
conditions than allowed, where a negative limit allows no condition but does not refuse a filter
without any. The loop of the check ends for every filter, with the outcome of the check. A filter
that was read and is within the limits is compiled by a compiler that is not strict, with a
recursion that goes no deeper than the levels allowed. -/
theorem limits_exact (compiler : Compiler) (items : List Item) :
    ((∃ refusal, compiler.compileFilter items = .error refusal ∧ refusal.IsLimit) ↔
      compiler.limits.levels < depth items ∨ max compiler.limits.conditions 0 < size items) ∧
    (∀ outcome, Ends compiler.limits ⟨[(items, 1)], 0⟩ outcome ↔
      outcome = compiler.limits.check items) ∧
    (compiler.limits.check items = .ok () → compiler.strict = false →
      Predicate.orKey ∉ compiler.filterFields →
      ∀ payload, Filter.readFilter payload = .ok items →
        ∃ compiled, compiler.compileFilter items = .ok compiled ∧
          compiler.compileFilterWithin compiler.limits.levels.toNat items = .ok compiled) := by
  refine ⟨?_, ends_iff_check compiler.limits items, ?_⟩
  · rw [compileFilter_isLimit_iff, ne_eq, Limits.check_eq_ok]
    omega
  · intro within lenient apart payload read
    have found := compileFilter_answers apart lenient within (Filter.itemsTyped_of_readFilter read)
    have levels := (Limits.check_eq_ok.mp within).1
    refine ⟨_, found, ?_⟩
    rw [Compiler.compileFilter, within, ok_bind] at found
    rw [compileFilterWithin_eq (by omega), found, mapError_ok]

/-- A filter with a list of items nested in a condition on a field that is not allowed, and an empty
list nested in that. -/
private def layered : Value := .list [
  .object [("condition", .list [
    .object [("field", .str "title"), ("value", .str "a")],
    .object [("field", .str "owner"), ("value", .list [
      .object [("condition", .list [
        .object [("field", .str "title"), ("comparator", .str "$in"), ("value", .list [])]])]])]])]]

private def layeredItems : List Item := [
  .group .every [.compare (.str "title") .null (.scalar (.str "a")),
    .compare (.str "owner") .null (.nested [
      .group .every [.compare (.str "title") (.str "$in") (.nested [])]])]]

/-- What is dropped counts for both limits: three levels and three conditions are just allowed. -/
theorem limits_exact_layered :
    ∃ compiled, Compiler.compileFilter ⟨["title"], [], ⟨3, 3⟩, false⟩ layeredItems = .ok compiled ∧
      Compiler.compileFilterWithin ⟨["title"], [], ⟨3, 3⟩, false⟩ 3 layeredItems = .ok compiled :=
  (limits_exact ⟨["title"], [], ⟨3, 3⟩, false⟩ layeredItems).2.2 rfl rfl (by decide) layered rfl

/-- A filter without conditions is within every limit on their number, a negative one included. -/
theorem not_refused_negative :
    ¬ ((∃ refusal, Compiler.compileFilter ⟨["title"], [], ⟨8, -1⟩, false⟩ [] = .error refusal ∧
        refusal.IsLimit) ↔ (8 : Int) < depth [] ∨ (-1 : Int) < size []) := by
  intro exact
  obtain ⟨refusal, refused, -⟩ := exact.mpr (Or.inr (by decide))
  cases refused

end SurveyDesk.Query
