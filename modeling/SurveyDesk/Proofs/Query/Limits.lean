import SurveyDesk.Proofs.Fault
import SurveyDesk.Query.Limits

/-! What the limits on filters let through. A filter has a depth, the number of its levels of items,
and a size, the number of its conditions on all levels. The check counts conditions as it meets
them, so a limit on their number matters only where there is a condition: a negative limit is as
good as zero. -/
namespace SurveyDesk.Query
open SurveyDesk.Filter (Item Condition Content)

/-! ## Depth and size -/

mutual

/-- How many levels of items there are below items. -/
def depthBelow : List Item → Nat
  | [] => 0
  | .group _ conditions :: rest => max (conditionsDepth conditions) (depthBelow rest)

/-- How many levels of items there are in conditions. -/
def conditionsDepth : List Condition → Nat
  | [] => 0
  | .compare _ _ content :: rest => max (contentDepth content) (conditionsDepth rest)

/-- How many levels of items there are in what a condition compares with. A list of items is one,
even if it is empty. -/
def contentDepth : Content → Nat
  | .scalar _ => 0
  | .nested items => depthBelow items + 1

end

/-- How many levels of items a filter has. -/
def depth (items : List Item) : Nat := depthBelow items + 1

mutual

/-- How many conditions there are in the lists nested in items. -/
def sizeBelow : List Item → Nat
  | [] => 0
  | .group _ conditions :: rest => conditionsSize conditions + sizeBelow rest

/-- How many conditions there are in the lists nested in conditions. -/
def conditionsSize : List Condition → Nat
  | [] => 0
  | .compare _ _ content :: rest => contentSize content + conditionsSize rest

/-- How many conditions there are in what a condition compares with, on all levels. -/
def contentSize : Content → Nat
  | .scalar _ => 0
  | .nested items => conditionCount items + sizeBelow items

end

/-- How many conditions a filter has on all levels. -/
def size (items : List Item) : Nat := conditionCount items + sizeBelow items

theorem conditionCount_eq (items : List Item) :
    conditionCount items = (items.flatMap Item.conditions).length := by
  have onTop : ∀ (rest : List Item) (counted : Nat),
      rest.foldl (fun sum item => sum + item.conditions.length) counted =
        counted + (rest.flatMap Item.conditions).length := by
    intro rest
    induction rest with
    | nil => exact fun _ => rfl
    | cons item rest ih =>
      intro counted
      rw [List.foldl_cons, ih, List.flatMap_cons, List.length_append, Nat.add_assoc]
  exact (onTop items 0).trans (Nat.zero_add _)

theorem size_cons : size (.group combinator conditions :: rest) =
    conditions.length + conditionsSize conditions + size rest := by
  rw [size, size, conditionCount_eq, conditionCount_eq, List.flatMap_cons, List.length_append,
    sizeBelow, Item.conditions]
  omega

/-! ## The check -/

/-- Whether a filter is refused for being beyond a limit. -/
def Refusal.IsLimit : Refusal → Prop
  | .tooManyLevels _ | .tooManyConditions _ => True
  | .repeatedField _ | .fault _ => False

/-- Whether so many levels below one level, with so many conditions on top of those counted, are
within the limits. Where there are none there is nothing to refuse. -/
def Limits.Allows (limits : Limits) (level levels counted added : Nat) : Prop :=
  (levels = 0 ∨ (level + levels : Nat) ≤ limits.levels) ∧
    (added = 0 ∨ (counted + added : Nat) ≤ limits.conditions)

/-- A count answers the sum exactly if it is allowed to, and is refused for a limit otherwise. -/
def Counts (allowed : Prop) (sum : Nat) : Except Refusal Nat → Prop
  | .ok counted => allowed ∧ counted = sum
  | .error refusal => ¬ allowed ∧ refusal.IsLimit

variable {limits : Limits}

theorem Counts.bind {first : Except Refusal Nat} {next : Nat → Except Refusal Nat}
    (before : Counts here middle first) (after : Counts there sum (next middle))
    (both : allowed ↔ here ∧ there) : Counts allowed sum (first >>= next) := by
  cases first with
  | error refusal => exact ⟨fun allows => before.1 (both.mp allows).1, before.2⟩
  | ok counted =>
    obtain ⟨fits, rfl⟩ := before
    rw [ok_bind]
    cases answered : next counted with
    | error refusal =>
      rw [answered] at after
      exact ⟨fun allows => after.1 (both.mp allows).2, after.2⟩
    | ok total =>
      rw [answered] at after
      exact ⟨both.mpr ⟨fits, after.1⟩, after.2⟩

theorem Limits.allows_max (limits : Limits) (level first second counted here there : Nat) :
    limits.Allows level (max second first) counted (here + there) ↔
      limits.Allows level first counted here ∧
        limits.Allows level second (counted + here) there := by
  unfold Limits.Allows
  omega

theorem Limits.allows_succ (limits : Limits) (level below counted here there : Nat) :
    limits.Allows level (below + 1) counted (here + there) ↔
      limits.Allows level 1 counted here ∧
        limits.Allows (level + 1) below (counted + here) there := by
  unfold Limits.Allows
  omega

/-- The conditions of one list are counted if its level and their number are within the limits. -/
theorem counts_countList (limits : Limits) (level counted : Nat) (items : List Item) :
    Counts (limits.Allows level 1 counted (conditionCount items)) (counted + conditionCount items)
      (countList limits (level + 1) counted items) := by
  unfold countList Limits.Allows
  dsimp only
  split
  · exact ⟨by omega, trivial⟩
  · split
    · exact ⟨by omega, trivial⟩
    · exact ⟨by omega, rfl⟩

mutual

theorem counts_walkItems (limits : Limits) (level counted : Nat) : ∀ items : List Item,
    Counts (limits.Allows level (depthBelow items) counted (sizeBelow items))
      (counted + sizeBelow items) (walkItems limits level counted items)
  | [] => ⟨⟨Or.inl rfl, Or.inl rfl⟩, rfl⟩
  | .group combinator conditions :: rest => by
    have before := counts_walkItems limits level counted rest
    have after := counts_walkConditions limits level (counted + sizeBelow rest) conditions
    rw [walkItems, depthBelow, sizeBelow, Nat.add_comm (conditionsSize conditions), ← Nat.add_assoc]
    exact before.bind after (limits.allows_max ..)

theorem counts_walkConditions (limits : Limits) (level counted : Nat) :
    ∀ conditions : List Condition,
    Counts (limits.Allows level (conditionsDepth conditions) counted (conditionsSize conditions))
      (counted + conditionsSize conditions) (walkConditions limits level counted conditions)
  | [] => ⟨⟨Or.inl rfl, Or.inl rfl⟩, rfl⟩
  | .compare field comparator content :: rest => by
    have before := counts_walkConditions limits level counted rest
    have after := counts_walkContent limits level (counted + conditionsSize rest) content
    rw [walkConditions, conditionsDepth, conditionsSize, Nat.add_comm (contentSize content),
      ← Nat.add_assoc]
    exact before.bind after (limits.allows_max ..)

theorem counts_walkContent (limits : Limits) (level counted : Nat) : ∀ content : Content,
    Counts (limits.Allows level (contentDepth content) counted (contentSize content))
      (counted + contentSize content) (walkContent limits level counted content)
  | .scalar value => ⟨⟨Or.inl rfl, Or.inl rfl⟩, rfl⟩
  | .nested items => by
    have own := counts_countList limits level counted items
    have below := counts_walkItems limits (level + 1) (counted + conditionCount items) items
    rw [walkContent, contentDepth, contentSize, ← Nat.add_assoc]
    exact own.bind below (limits.allows_succ ..)

end

/-- The check is the count of the whole filter as a list that is nested nowhere. -/
theorem Limits.check_eq (limits : Limits) (items : List Item) :
    limits.check items = (walkContent limits 0 0 (.nested items)).map fun _ => () := by
  rw [walkContent, Limits.check]
  cases countList limits 1 0 items <;> rfl

/-- A filter is within the limits if it has no more levels and no more conditions than they say; a
filter without conditions has no more conditions than any limit says. -/
theorem Limits.check_eq_ok : limits.check items = .ok () ↔
    (depth items : Int) ≤ limits.levels ∧ (size items : Int) ≤ max limits.conditions 0 := by
  have whole := counts_walkContent limits 0 0 (.nested items)
  rw [Limits.check_eq]
  have allows : limits.Allows 0 (depth items) 0 (size items) ↔
      (depth items : Int) ≤ limits.levels ∧ (size items : Int) ≤ max limits.conditions 0 := by
    unfold Limits.Allows depth
    omega
  rw [← allows]
  cases answered : walkContent limits 0 0 (.nested items) with
  | ok counted =>
    rw [answered] at whole
    exact iff_of_true rfl whole.1
  | error refusal =>
    rw [answered] at whole
    exact iff_of_false (fun same => by cases same) whole.1

theorem Limits.check_error (refused : limits.check items = .error refusal) : refusal.IsLimit := by
  have whole := counts_walkContent limits 0 0 (.nested items)
  rw [Limits.check_eq] at refused
  cases answered : walkContent limits 0 0 (.nested items) with
  | ok counted =>
    rw [answered] at refused
    cases refused
  | error other =>
    rw [answered] at refused whole
    cases refused
    exact whole.2

end SurveyDesk.Query
