import SurveyDesk.Proofs.Filter.Reading
import SurveyDesk.Proofs.Filter.SortList

/-! Which violation is reported. Of several violations the first with the least path is reported, at
the root exactly if the value is no list, and nothing is reported exactly if nothing is wrong. A
value that is nested too deeply is not checked to the end, and what is wrong with it is not told. -/
namespace SurveyDesk.Filter

variable {value : Value} {formed deep : Prop} {found : List Violation} {violation : Violation}
  {reported : Option Violation} {report : Except Rejection (Option Violation)}

/-! ## The first of several violations -/

/-- What is to be reported of several violations: nothing if there are none, and else the first that
has the least path. Those that come before it have paths above its own, and those that come after it
have its own path or one above. -/
inductive Least : List Violation → Option Violation → Prop
  | nothing : Least [] none
  | first (ahead behind : List Violation) {violation : Violation}
      (earlier : ∀ other ∈ ahead, PathBelow violation.path other.path)
      (later : ∀ other ∈ behind, PathUpTo violation.path other.path) :
      Least (ahead ++ violation :: behind) (some violation)

theorem Least.mem (least : Least found (some violation)) : violation ∈ found := by
  cases least with
  | first => simp

theorem Least.eq_none_iff (least : Least found reported) : reported = none ↔ found = [] := by
  cases least with
  | nothing => simp
  | first => simp

theorem least?_cons (violation : Violation) (rest : List Violation) :
    Violation.least? (violation :: rest) = match Violation.least? rest with
      | none => some violation
      | some other =>
        if pathBefore? other.path violation.path = some true then some other
        else some violation := by
  rw [Violation.least?, Violation.least?, Violation.sorted]
  cases Violation.sorted rest with
  | nil => rfl
  | cons other others =>
    rw [Violation.insert]
    dsimp only [List.head?_cons]
    split <;> rfl

/-- Sorting puts the first violation with the least path in front. -/
theorem least?_least (compared : Violation.comparable found = true) :
    Least found (Violation.least? found) := by
  rw [comparable_iff] at compared
  induction found with
  | nil => exact .nothing
  | cons violation rest ih =>
    have least := ih fun one here other there =>
      compared one (.tail _ here) other (.tail _ there)
    rw [least?_cons]
    generalize Violation.least? rest = reported at least
    cases least with
    | nothing => exact .first [] [] (List.forall_mem_nil _) (List.forall_mem_nil _)
    | @first ahead behind other earlier later =>
      dsimp only
      split
      · rename_i before
        have below := pathBefore?_eq_true.mp before
        exact .first (violation :: ahead) behind
          (List.forall_mem_cons.mpr ⟨below, earlier⟩) later
      · -- the violation in front is as low as the least of the rest, and so as low as all of them
        rename_i notBefore
        have mem : other ∈ ahead ++ other :: behind := by simp
        obtain ⟨before, compares⟩ := Option.isSome_iff_exists.mp
          (compared other (.tail _ mem) violation (.head _))
        have upTo : PathUpTo violation.path other.path := by
          cases before with
          | true => exact absurd compares notBefore
          | false => exact pathBefore?_eq_false compares
        refine .first [] (ahead ++ other :: behind) (List.forall_mem_nil _) fun one member => ?_
        rcases List.mem_append.mp member with member | member
        · exact upTo.trans (.inr (earlier one member))
        · rcases List.mem_cons.mp member with rfl | member
          · exact upTo
          · exact upTo.trans (later one member)

/-! ## Where violations are reported -/

/-- A path that begins in a list is not reported as the root: it begins with digits. -/
theorem place_index_ne_root (index : Nat) (rest : List Step) :
    Violation.place (.index index :: rest) ≠ "<root>".toList := by
  have digits : (Step.index index).text = Nat.toDigits 10 index := by
    rw [Step.text, Nat.toString_eq_repr, Nat.toList_repr]
  obtain ⟨digit, digitsLeft, same⟩ := List.exists_cons_of_ne_nil
    (Nat.toDigits_ne_nil : Nat.toDigits 10 index ≠ [])
  have isDigit : digit.isDigit = true :=
    Nat.isDigit_of_mem_toDigits (by decide) (by decide) (same ▸ List.mem_cons_self)
  have begins : ∃ more, Violation.joined (.index index :: rest) = digit :: more := by
    cases rest with
    | nil => exact ⟨digitsLeft, digits.trans same⟩
    | cons step others =>
      refine ⟨digitsLeft ++ '/' :: Violation.joined (step :: others), ?_⟩
      rw [← List.cons_append, ← same, ← digits]
      rfl
  obtain ⟨more, begins⟩ := begins
  rw [Violation.place, begins]
  intro root
  have first : digit = '<' := (List.cons.inj root).1
  rw [first] at isDigit
  cases isDigit

/-- A violation is reported at the root exactly if the value is no list. -/
def RootIfNoList (value : Value) (violation : Violation) : Prop :=
  Violation.place violation.path = "<root>".toList ↔ ∀ values, value ≠ .list values

theorem root_of_list {values : List Value} (found : FoundAmong [] 0 values violation) :
    RootIfNoList (.list values) violation := by
  obtain ⟨further, part, -, rest, onward, -⟩ := found
  constructor
  · intro root
    rw [onward] at root
    exact absurd root (place_index_ne_root _ rest)
  · intro other
    exact absurd rfl (other values)

theorem root_of_other (other : ∀ values, value ≠ .list values)
    (member : violation ∈ notOfKind "array" [] value) : RootIfNoList value violation := by
  obtain rfl := List.mem_singleton.mp member
  exact ⟨fun _ => other, fun _ => rfl⟩

theorem violations_root (member : violation ∈ violations value) : RootIfNoList value violation := by
  cases value with
  | list values => exact root_of_list (itemListViolations_found member)
  | _ => exact root_of_other nofun member

theorem sortViolations_root (member : violation ∈ sortViolations value) :
    RootIfNoList value violation := by
  cases value with
  | list values => exact root_of_list (requestListViolations_found member)
  | _ => exact root_of_other nofun member

/-! ## Reports -/

/-- How a check reports what it has found in a value that should be of some form. Each path leads to
the part that is at fault, and any two of them can be compared. Nothing is found exactly in a value
of the form. Only in a deep value the check is cut short; else it reports the first violation with
the least path, at the root exactly if the value is no list, and nothing exactly if nothing was
found. -/
structure ReportsLeast (value : Value) (formed deep : Prop) (found : List Violation)
    (report : Except Rejection (Option Violation)) : Prop where
  leads : ∀ violation ∈ found, follow? violation.path value = some violation.value
  compared : ∀ first ∈ found, ∀ second ∈ found,
    (pathBefore? first.path second.path).isSome = true
  form : found = [] ↔ formed
  cut : report = .error .tooDeep → deep
  ends : report = .error .tooDeep ∨ ∃ reported, report = .ok reported ∧ Least found reported
  root : ∀ violation, report = .ok (some violation) → RootIfNoList value violation
  clean : report ≠ .error .tooDeep → (report = .ok none ↔ found = [])

theorem firstViolation_least (inside : ∀ violation ∈ found, FoundUnder [] value violation) :
    ∃ reported, firstViolation found = .ok reported ∧ Least found reported :=
  ⟨_, firstViolation_of_found inside, least?_least (comparable_of_found inside)⟩

theorem reportsLeast (inside : ∀ violation ∈ found, FoundUnder [] value violation)
    (root : ∀ violation ∈ found, RootIfNoList value violation) (form : found = [] ↔ formed)
    (ends : report = .error .tooDeep ∧ deep ∨
      ∃ reported, report = .ok reported ∧ Least found reported) :
    ReportsLeast value formed deep found report where
  leads violation member := (inside violation member).leads
  compared := comparable_iff.mp (comparable_of_found inside)
  form := form
  cut failed := by
    rcases ends with ⟨-, tooDeep⟩ | ⟨reported, answered, -⟩
    · exact tooDeep
    · cases failed.symm.trans answered
  ends := ends.imp_left And.left
  root violation answered := by
    rcases ends with ⟨failed, -⟩ | ⟨reported, again, least⟩
    · cases failed.symm.trans answered
    · cases again.symm.trans answered
      exact root violation least.mem
  clean ended := by
    rcases ends with ⟨failed, -⟩ | ⟨reported, answered, least⟩
    · exact absurd failed ended
    · rw [answered, Except.ok.injEq, least.eq_none_iff]

theorem checkFilter_least (value : Value) :
    checkFilter value = .error .tooDeep ∧
        (30 < levels value ∨ ∃ part ∈ shown value, roomAt part.1 < Json.nesting part.2) ∨
      ∃ reported, checkFilter value = .ok reported ∧ Least (violations value) reported := by
  unfold checkFilter
  split
  · rename_i deep
    refine .inl ⟨rfl, deep.imp (Nat.lt_trans (by decide)) fun long => ?_⟩
    obtain ⟨part, member, deeper⟩ := List.any_eq_true.mp long
    exact ⟨part, member, of_decide_eq_true deeper⟩
  · exact .inr (firstViolation_least fun _ => violations_found)

theorem checkSort_least (value : Value) :
    checkSort value = .error .tooDeep ∧
        (∃ violation ∈ sortViolations value, violation.isTooDeep = true) ∨
      ∃ reported, checkSort value = .ok reported ∧ Least (sortViolations value) reported := by
  unfold checkSort
  split
  · rename_i deep
    exact .inl ⟨rfl, List.any_eq_true.mp deep⟩
  · exact .inr (firstViolation_least fun _ => sortViolations_found)

/-- Of what is wrong with a value as a filter, and of what is wrong with it as a sort list, the
first violation with the least path is reported, and a payload with the value is refused for it. A
filter is checked to the end unless it has more than thirty levels or a part is nested too deeply
that is written out while it is checked; where it is not, it is refused for its depth. -/
theorem first_violation_is_reported (value : Value) :
    ReportsLeast value (IsItems value)
      (30 < levels value ∨ ∃ part ∈ shown value, roomAt part.1 < Json.nesting part.2)
      (violations value) (checkFilter value) ∧
    ReportsLeast value (∃ requests, IsSortList value requests)
      (∃ violation ∈ sortViolations value, violation.isTooDeep = true)
      (sortViolations value) (checkSort value) ∧
    ∀ payload, payloadValue payload = .ok value →
      (checkFilter value = .error .tooDeep → readFilter payload = .error .tooDeep) ∧
      (∀ violation, checkFilter value = .ok (some violation) →
        readFilter payload = .error (.misshapen violation)) ∧
      ∀ violation, checkSort value = .ok (some violation) →
        readSort payload = .error (.misshapen violation) := by
  refine ⟨?_, ?_, fun payload decoded => ⟨fun failed => ?_, fun violation reported => ?_,
    fun violation reported => ?_⟩⟩
  · exact reportsLeast (fun _ => violations_found) (fun _ => violations_root)
      (violations_eq_nil value) (checkFilter_least value)
  · exact reportsLeast (fun _ => sortViolations_found) (fun _ => sortViolations_root)
      (sortViolations_eq_nil value) (checkSort_least value)
  · rw [readFilter, decoded, ok_bind, failed]
    rfl
  · rw [readFilter, decoded, ok_bind, reported]
    rfl
  · rw [readSort, decoded, ok_bind, reported]
    rfl

/-- An item without conditions. -/
private def bareItem : Value := .object [("condition", .list [])]

private theorem isItem_bareItem : IsItem bareItem := by
  refine .object ?_ rfl (.list (List.forall_mem_nil _))
  intro mark held
  cases held

/-- A number where an item should be, and an item of a hundred and fifty levels. -/
private def deepFilter : Value := .list [.int 5, nestedItem bareItem 149]

private theorem levels_deepFilter : levels deepFilter = 150 := by
  have inside : levels deepFilter = max 1 (max (levelsIn (nestedItem bareItem 149)) 1) := rfl
  rw [inside, levelsIn_nestedItem]
  rfl

private theorem payloadValue_deepFilter : payloadValue deepFilter = .ok deepFilter := rfl

private theorem checkFilter_deepFilter : checkFilter deepFilter = .error .tooDeep := by
  rw [checkFilter, levels_deepFilter]
  rfl

private def misplaced : Violation := ⟨[.index 0], .int 5, .kind "object"⟩

/-- The number is all that is wrong with the filter, and it is not reported. -/
theorem deep_filter_is_not_reported :
    violations deepFilter = [misplaced] ∧ Least (violations deepFilter) (some misplaced) ∧
    misplaced.message = "0: 5 is not of type 'object'" ∧
    checkFilter deepFilter = .error .tooDeep ∧ readFilter deepFilter = .error .tooDeep ∧
    Rejection.message "filter" .tooDeep = "filter is nested too deeply" := by
  have clean : itemViolations ([] ++ [.index 1]) (nestedItem bareItem 149) = [] :=
    (itemViolations_eq_nil _ _).mpr (isItem_nestedItem isItem_bareItem 149)
  have only : violations deepFilter = [misplaced] := by
    rw [violations, deepFilter, itemsViolations, itemListViolations, itemListViolations,
      itemListViolations, clean]
    rfl
  have least : Least [misplaced] (some misplaced) :=
    .first [] [] (List.forall_mem_nil _) (List.forall_mem_nil _)
  refine ⟨only, only ▸ least, by decide +kernel, checkFilter_deepFilter, ?_, rfl⟩
  rw [readFilter, payloadValue_deepFilter, ok_bind, checkFilter_deepFilter]
  rfl

/-- An item with a comparator that is no text, and without conditions. -/
private def unmarkedItem : Entries := [("comparator", .int 5)]

private def unmarked : Value := .list [.object unmarkedItem]

private def unconditioned : Violation := ⟨[.index 0], .object unmarkedItem, .required "condition"⟩

private def unlisted : Violation := ⟨[], .object [], .kind "array"⟩

theorem first_violation_is_reported_unmarked :
    (payloadValue unmarked = .ok unmarked ∧ checkFilter unmarked = .ok (some unconditioned) ∧
      Least (violations unmarked) (some unconditioned) ∧
      readFilter unmarked = .error (.misshapen unconditioned) ∧
      unconditioned.message = "0: 'condition' is a required property") ∧
    (checkSort (.object []) = .ok (some unlisted) ∧
      Violation.place unlisted.path = "<root>".toList ∧
      readSort (.object []) = .error (.misshapen unlisted)) ∧
    checkFilter deepFilter = .error .tooDeep ∧ readFilter deepFilter = .error .tooDeep := by
  have checked : checkFilter unmarked = .ok (some unconditioned) := rfl
  have unsorted : checkSort (.object []) = .ok (some unlisted) := rfl
  obtain ⟨filters, -, payloads⟩ := first_violation_is_reported unmarked
  obtain ⟨-, sorts, others⟩ := first_violation_is_reported (.object [])
  obtain ⟨-, -, deeps⟩ := first_violation_is_reported deepFilter
  have least : Least (violations unmarked) (some unconditioned) := by
    rcases filters.ends with failed | ⟨reported, again, least⟩
    · cases checked.symm.trans failed
    · cases checked.symm.trans again
      exact least
  refine ⟨⟨rfl, checked, least, (payloads _ rfl).2.1 _ checked, by decide +kernel⟩,
    ⟨unsorted, (sorts.root _ unsorted).mpr nofun, (others _ rfl).2.2 _ unsorted⟩,
    checkFilter_deepFilter, (deeps _ payloadValue_deepFilter).1 checkFilter_deepFilter⟩

end SurveyDesk.Filter
