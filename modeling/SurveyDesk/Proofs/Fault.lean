import SurveyDesk.Fault

/-! Computations that may stop with a fault, in steps. A computation in two steps answers exactly if
the first step answers and the second answers from there. -/
namespace SurveyDesk

variable {α β ε ε' : Type}

@[simp] theorem ok_bind (answer : α) (next : α → Except ε β) :
    (Except.ok answer >>= next) = next answer := rfl

@[simp] theorem error_bind (fault : ε) (next : α → Except ε β) :
    (Except.error fault >>= next) = .error fault := rfl

theorem pure_eq_ok (answer : α) : (pure answer : Except ε α) = .ok answer := rfl

theorem ok_ne_error {answer : α} {fault : ε} : (Except.ok answer : Except ε α) ≠ .error fault := by
  intro same
  cases same

theorem error_ne_ok {answer : α} {fault : ε} : (Except.error fault : Except ε α) ≠ .ok answer :=
  ok_ne_error.symm

theorem bind_eq_ok {first : Except ε α} {next : α → Except ε β} :
    first >>= next = .ok answer ↔ ∃ between, first = .ok between ∧ next between = .ok answer := by
  cases first <;> simp

theorem bind_eq_error {first : Except ε α} {next : α → Except ε β} :
    first >>= next = .error fault ↔
      first = .error fault ∨ ∃ between, first = .ok between ∧ next between = .error fault := by
  cases first <;> simp

/-- A computation behind a guard answers exactly if the guard lets it. -/
theorem guarded_eq_ok {stops : Prop} [Decidable stops] {fault : ε} {next : Except ε α} :
    (if stops then throw fault else next) = .ok answer ↔ ¬ stops ∧ next = .ok answer := by
  by_cases stop : stops
  · rw [if_pos stop]
    exact iff_of_false error_ne_ok fun both => both.1 stop
  · rw [if_neg stop]
    exact (and_iff_right stop).symm

theorem mapError_ok (change : ε → ε') (answer : α) :
    (Except.ok answer : Except ε α).mapError change = .ok answer := rfl

theorem mapError_bind (change : ε → ε') (first : Except ε α) (next : α → Except ε β) :
    (first >>= next).mapError change =
      first.mapError change >>= fun answer => (next answer).mapError change := by
  cases first <;> rfl

theorem mapError_eq_ok {change : ε → ε'} {first : Except ε α} :
    first.mapError change = .ok answer ↔ first = .ok answer := by
  cases first with
  | error fault => constructor <;> exact fun same => by cases same
  | ok found =>
    rw [mapError_ok, Except.ok.injEq, Except.ok.injEq]

/-- A computation for each of several items answers exactly if every one does. -/
theorem mapM_answers_iff (compute : α → Except ε β) (items : List α) :
    (∃ answers, items.mapM compute = .ok answers) ↔
      ∀ item ∈ items, ∃ answer, compute item = .ok answer := by
  induction items with
  | nil => simp [pure_eq_ok]
  | cons item rest ih =>
    rw [List.forall_mem_cons, ← ih, List.mapM_cons]
    simp only [bind_eq_ok, pure_eq_ok]
    constructor
    · rintro ⟨_, answer, here, others, behind, -⟩
      exact ⟨⟨answer, here⟩, others, behind⟩
    · rintro ⟨⟨answer, here⟩, others, behind⟩
      exact ⟨_, answer, here, others, behind, rfl⟩

end SurveyDesk
