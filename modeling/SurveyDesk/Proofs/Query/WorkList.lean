import SurveyDesk.Proofs.Query.Limits

/-! The check of the limits as a loop. The loop keeps a list of work, the lists of items that are
still to be looked at, and never calls itself: it takes the list that was put there last, counts its
conditions one by one and puts the lists nested in them to the others. It ends for every filter, and
with what the recursive check answers. -/
namespace SurveyDesk.Query
open SurveyDesk.Filter (Item Condition Content)

/-- The state of the loop: the lists that are still to be looked at with their levels, the next one
first, and the number of conditions counted so far. -/
structure Walk where
  pending : List (List Item × Nat)
  counted : Nat

namespace Walk

/-- Counts a condition of a list on a level. A list nested in it will be the next to be looked
at. -/
def visit (limits : Limits) (level : Nat) (walk : Walk) (condition : Condition) :
    Except Refusal Walk :=
  if limits.conditions < (walk.counted + 1 : Nat) then
    .error (.tooManyConditions limits.conditions)
  else
    match condition.content with
    | .scalar _ => .ok ⟨walk.pending, walk.counted + 1⟩
    | .nested items => .ok ⟨(items, level + 1) :: walk.pending, walk.counted + 1⟩

/-- Looks at a list of items on a level. -/
def enter (limits : Limits) (items : List Item) (level : Nat) (walk : Walk) :
    Except Refusal Walk :=
  if limits.levels < level then .error (.tooManyLevels limits.levels)
  else items.foldlM (fun walk item => item.conditions.foldlM (visit limits level) walk) walk

end Walk

/-- The loop ends with an outcome. -/
inductive Ends (limits : Limits) : Walk → Except Refusal Unit → Prop
  | done : Ends limits ⟨[], counted⟩ (.ok ())
  | refused (stops : Walk.enter limits items level ⟨pending, counted⟩ = .error refusal) :
    Ends limits ⟨(items, level) :: pending, counted⟩ (.error refusal)
  | onward (goes : Walk.enter limits items level ⟨pending, counted⟩ = .ok next)
    (later : Ends limits next outcome) :
    Ends limits ⟨(items, level) :: pending, counted⟩ outcome

variable {limits : Limits} {walk : Walk}

theorem Ends.unique (ends : Ends limits walk outcome) (other : Ends limits walk outcome') :
    outcome = outcome' := by
  induction ends with
  | done =>
    cases other
    rfl
  | refused stops =>
    cases other with
    | refused stops' =>
      cases stops.symm.trans stops'
      rfl
    | onward goes => cases stops.symm.trans goes
  | onward goes later ih =>
    cases other with
    | refused stops => cases stops.symm.trans goes
    | onward goes' later' =>
      cases goes.symm.trans goes'
      exact ih later'

/-! ## One round -/

/-- The list nested in what a condition compares with, on a level. -/
def nestedInContent (level : Nat) : Content → List (List Item × Nat)
  | .scalar _ => []
  | .nested items => [(items, level)]

/-- The lists nested in conditions, the last of them first. -/
def nestedInConditions (level : Nat) (conditions : List Condition) : List (List Item × Nat) :=
  conditions.reverse.flatMap fun condition => nestedInContent level condition.content

/-- The lists nested in items, the last of them first. -/
def nestedInItems (level : Nat) (items : List Item) : List (List Item × Nat) :=
  items.reverse.flatMap fun item => nestedInConditions level item.conditions

theorem nestedInConditions_cons (level : Nat) (condition : Condition) (rest : List Condition) :
    nestedInConditions level (condition :: rest) =
      nestedInConditions level rest ++ nestedInContent level condition.content := by
  simp [nestedInConditions]

theorem nestedInItems_cons (level : Nat) (item : Item) (rest : List Item) :
    nestedInItems level (item :: rest) =
      nestedInItems level rest ++ nestedInConditions level item.conditions := by
  simp [nestedInItems]

/-- Counts so many conditions on top of those counted so far. -/
def tally (limits : Limits) (counted added : Nat) : Except Refusal Nat :=
  if counted < counted + added ∧ limits.conditions < (counted + added : Nat) then
    .error (.tooManyConditions limits.conditions)
  else .ok (counted + added)

theorem tally_zero (limits : Limits) (counted : Nat) : tally limits counted 0 = .ok counted :=
  if_neg fun both => absurd both.1 (Nat.lt_irrefl counted)

/-- Counting in two steps refuses exactly if counting at once does. -/
theorem tally_add (limits : Limits) (counted here there : Nat) :
    tally limits counted (here + there) =
      tally limits counted here >>= fun sum => tally limits sum there := by
  by_cases stops : counted < counted + here ∧ limits.conditions < (counted + here : Nat)
  · have whole : counted < counted + (here + there) ∧
        limits.conditions < (counted + (here + there) : Nat) := by omega
    rw [tally, if_pos whole, tally, if_pos stops, error_bind]
  · have goes : tally limits counted here = .ok (counted + here) := if_neg stops
    have same : counted < counted + (here + there) ∧
        limits.conditions < (counted + (here + there) : Nat) ↔
      counted + here < counted + (here + there) ∧
        limits.conditions < (counted + (here + there) : Nat) := by omega
    rw [goes, ok_bind]
    simp only [tally, Nat.add_assoc, same]

/-- A loop whose steps count conditions and put lists to the others counts all conditions at once
and has put all lists there in the end, those of the last step first. -/
theorem foldlM_tally {step : Walk → α → Except Refusal Walk} {own : α → List Condition}
    {nested : α → List (List Item × Nat)}
    (each : ∀ walk one, step walk one = (tally limits walk.counted (own one).length).map fun sum =>
      ⟨nested one ++ walk.pending, sum⟩) :
    ∀ (all : List α) (walk : Walk), all.foldlM step walk =
      (tally limits walk.counted (all.flatMap own).length).map fun sum =>
        ⟨all.reverse.flatMap nested ++ walk.pending, sum⟩
  | [], walk => by
    rw [List.flatMap_nil, List.length_nil, tally_zero]
    rfl
  | one :: rest, walk => by
    rw [List.foldlM_cons, each, List.flatMap_cons, List.length_append, tally_add]
    cases tally limits walk.counted (own one).length with
    | error refusal => rfl
    | ok sum =>
      have later := foldlM_tally each rest ⟨nested one ++ walk.pending, sum⟩
      rw [List.reverse_cons, List.flatMap_append, List.flatMap_singleton, List.append_assoc]
      exact later

theorem Walk.visit_eq (level : Nat) (walk : Walk) (condition : Condition) :
    walk.visit limits level condition =
      (tally limits walk.counted [condition].length).map fun sum =>
        ⟨nestedInContent (level + 1) condition.content ++ walk.pending, sum⟩ := by
  unfold visit tally
  by_cases stops : limits.conditions < (walk.counted + 1 : Nat)
  · rw [if_pos stops, if_pos ⟨Nat.lt_succ_self _, stops⟩]
    rfl
  · rw [if_neg stops, if_neg fun both => stops both.2]
    cases condition.content <;> rfl

/-- A round looks at a list as a whole: it counts its conditions and puts the lists nested in it to
the others. -/
theorem Walk.enter_eq (limits : Limits) (items : List Item) (level : Nat) (walk : Walk) :
    enter limits items level walk = (countList limits level walk.counted items).map fun sum =>
      ⟨nestedInItems (level + 1) items ++ walk.pending, sum⟩ := by
  have conditions : ∀ (walk : Walk) (item : Item),
      item.conditions.foldlM (visit limits level) walk =
        (tally limits walk.counted item.conditions.length).map fun sum =>
          ⟨nestedInConditions (level + 1) item.conditions ++ walk.pending, sum⟩ := by
    intro walk item
    rw [foldlM_tally (visit_eq level), List.flatMap_singleton']
    rfl
  rw [enter, foldlM_tally conditions, ← conditionCount_eq, countList]
  split <;> rfl

/-! ## All rounds -/

/-- From a state the loop gets to where only the rest of the work is left and so many conditions
have been counted, or it ends with the refusal. -/
def Leads (limits : Limits) (walk : Walk) (rest : List (List Item × Nat)) :
    Except Refusal Nat → Prop
  | .ok counted => ∀ outcome, Ends limits ⟨rest, counted⟩ outcome → Ends limits walk outcome
  | .error refusal => Ends limits walk (.error refusal)

theorem Leads.bind {first : Except Refusal Nat} {next : Nat → Except Refusal Nat}
    (before : Leads limits walk between first)
    (after : ∀ sum, Leads limits ⟨between, sum⟩ rest (next sum)) :
    Leads limits walk rest (first >>= next) := by
  cases first with
  | error refusal => exact before
  | ok sum =>
    have later := after sum
    rw [ok_bind]
    cases answered : next sum with
    | error refusal =>
      rw [answered] at later
      exact before _ later
    | ok counted =>
      rw [answered] at later
      exact fun outcome ends => before outcome (later outcome ends)

theorem leads_enter (limits : Limits) (items : List Item) (level counted : Nat)
    (rest : List (List Item × Nat)) :
    Leads limits ⟨(items, level) :: rest, counted⟩ (nestedInItems (level + 1) items ++ rest)
      (countList limits level counted items) := by
  have round := Walk.enter_eq limits items level ⟨rest, counted⟩
  cases answered : countList limits level counted items with
  | error refusal =>
    rw [answered] at round
    exact .refused round
  | ok sum =>
    rw [answered] at round
    exact fun outcome later => .onward round later

mutual

theorem leads_walkItems (limits : Limits) (level counted : Nat) (rest : List (List Item × Nat)) :
    ∀ items : List Item,
      Leads limits ⟨nestedInItems (level + 1) items ++ rest, counted⟩ rest
        (walkItems limits level counted items)
  | [] => fun _ ends => ends
  | .group combinator conditions :: others => by
    rw [nestedInItems_cons, List.append_assoc, walkItems]
    exact (leads_walkItems limits level counted _ others).bind fun sum =>
      leads_walkConditions limits level sum rest conditions

theorem leads_walkConditions (limits : Limits) (level counted : Nat)
    (rest : List (List Item × Nat)) : ∀ conditions : List Condition,
      Leads limits ⟨nestedInConditions (level + 1) conditions ++ rest, counted⟩ rest
        (walkConditions limits level counted conditions)
  | [] => fun _ ends => ends
  | .compare field comparator content :: others => by
    rw [nestedInConditions_cons, List.append_assoc, walkConditions]
    exact (leads_walkConditions limits level counted _ others).bind fun sum =>
      leads_walkContent limits level sum rest content

theorem leads_walkContent (limits : Limits) (level counted : Nat)
    (rest : List (List Item × Nat)) : ∀ content : Content,
      Leads limits ⟨nestedInContent (level + 1) content ++ rest, counted⟩ rest
        (walkContent limits level counted content)
  | .scalar value => fun _ ends => ends
  | .nested items => by
    rw [walkContent]
    exact (leads_enter limits items (level + 1) counted rest).bind fun sum =>
      leads_walkItems limits (level + 1) sum rest items

end

/-- The loop ends for every filter, with what the recursive check answers and with nothing else. -/
theorem ends_iff_check (limits : Limits) (items : List Item) (outcome : Except Refusal Unit) :
    Ends limits ⟨[(items, 1)], 0⟩ outcome ↔ outcome = limits.check items := by
  have ends : Ends limits ⟨[(items, 1)], 0⟩ (limits.check items) := by
    have leads := leads_walkContent limits 0 0 [] (.nested items)
    rw [Limits.check_eq]
    cases answered : walkContent limits 0 0 (.nested items) with
    | error refusal =>
      rw [answered] at leads
      exact leads
    | ok counted =>
      rw [answered] at leads
      exact leads _ .done
  constructor
  · intro other
    exact other.unique ends
  · rintro rfl
    exact ends

end SurveyDesk.Query
