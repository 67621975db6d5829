import SurveyDesk.Store.Copy

/-! How much room a copy takes. There is room for a list or an object if there is room for each of
its parts two calls further in. -/
namespace SurveyDesk

variable {calls : Nat}

theorem two_le_copyCalls (value : Value) : 2 ≤ copyCalls value := by
  cases value with
  | list items => exact Nat.le_add_left 2 _
  | object entries => exact Nat.le_add_left 2 _
  | _ => exact Nat.le_refl 2

theorem Copyable.mono {less : Nat} {value : Value} (copyable : Copyable calls value)
    (fewer : less ≤ calls) : Copyable less value :=
  Nat.le_trans (Nat.add_le_add_right fewer _) copyable

private theorem itemsCalls_le {room : Nat} {items : List Value} :
    calls + copyCalls.itemsCalls items ≤ room ↔
      calls + 1 ≤ room ∧ ∀ item ∈ items, calls + copyCalls item ≤ room := by
  induction items with
  | nil => simp [copyCalls.itemsCalls]
  | cons item rest ih =>
    rw [copyCalls.itemsCalls, List.forall_mem_cons, ← and_left_comm, ← ih]
    omega

private theorem entriesCalls_le {room : Nat} {entries : Entries} :
    calls + copyCalls.entriesCalls entries ≤ room ↔
      calls + 1 ≤ room ∧ ∀ entry ∈ entries, calls + copyCalls entry.2 ≤ room := by
  induction entries with
  | nil => simp [copyCalls.entriesCalls]
  | cons entry rest ih =>
    rw [copyCalls.entriesCalls, List.forall_mem_cons, ← and_left_comm, ← ih]
    omega

theorem copyable_list {items : List Value} : Copyable calls (.list items) ↔
    calls + 3 ≤ callRoom ∧ ∀ item ∈ items, Copyable (calls + 2) item := by
  rw [Copyable, copyCalls, Nat.add_comm _ 2, ← Nat.add_assoc, itemsCalls_le]
  rfl

theorem copyable_object {entries : Entries} : Copyable calls (.object entries) ↔
    calls + 3 ≤ callRoom ∧ ∀ entry ∈ entries, Copyable (calls + 2) entry.2 := by
  rw [Copyable, copyCalls, Nat.add_comm _ 2, ← Nat.add_assoc, entriesCalls_le]
  rfl

/-- A value takes two calls more as the only entry of an object. -/
theorem copyable_entry {key : Text} {value : Value} :
    Copyable calls (.object [(key, value)]) ↔ Copyable (calls + 2) value := by
  have least := two_le_copyCalls value
  rw [copyable_object, List.forall_mem_singleton]
  simp only [Copyable]
  omega

/-- A value inside so many lists. -/
def inLists (value : Value) : Nat → Value
  | 0 => value
  | depth + 1 => .list [inLists value depth]

/-- Every list takes two calls more. -/
theorem copyable_inLists {value : Value} {depth : Nat} :
    Copyable calls (inLists value depth) ↔ Copyable (calls + 2 * depth) value := by
  induction depth generalizing calls with
  | zero => rfl
  | succ depth ih =>
    have least := two_le_copyCalls value
    rw [inLists, copyable_list, List.forall_mem_singleton, ih]
    simp only [Copyable]
    omega

end SurveyDesk
