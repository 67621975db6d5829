import SurveyDesk.Filter.Payload
import SurveyDesk.Proofs.Value.Entries

/-! The paths of violations and their order. The path of a violation leads from the value that is
checked to the part that is at fault. A step into a list is a place and a step into an object is a
key, so two paths into one value part with steps of one kind. That is why the violations of a value
can be sorted. -/
namespace SurveyDesk.Filter

variable {path : List Step} {place : Nat} {value part : Value} {values : List Value}
  {violation : Violation}

/-! ## Following paths -/

/-- What a step leads to: a place leads into a list, and a key into an object. -/
def Step.into? : Step → Value → Option Value
  | .index place, .list values => values[place]?
  | .key name, .object entries => Entries.get? entries name
  | _, _ => none

/-- What a path leads to. -/
def follow? : List Step → Value → Option Value
  | [], value => some value
  | step :: rest, value => (step.into? value).bind (follow? rest)

/-! ## The order of paths -/

/-- Places are in the order of numbers, and keys in the order of texts. No place is below a key, and
no key below a place. -/
inductive Step.Below : Step → Step → Prop
  | place {m n : Nat} (less : m < n) : Below (.index m) (.index n)
  | key {s t : String} (less : s < t) : Below (.key s) (.key t)

/-- A path is below its extensions, and below every path that has a higher step where the two first
differ. -/
abbrev PathBelow : List Step → List Step → Prop := List.Lex Step.Below

/-- One path is another or below it. -/
def PathUpTo (first second : List Step) : Prop := first = second ∨ PathBelow first second

section
variable {first second third : List Step} {left right : Value}

theorem Step.Below.trans {first second third : Step} (below : Step.Below first second)
    (further : Step.Below second third) : Step.Below first third := by
  cases below with
  | place less =>
    cases further with
    | place lessAgain => exact .place (Nat.lt_trans less lessAgain)
  | key less =>
    cases further with
    | key lessAgain => exact .key (String.lt_trans less lessAgain)

theorem Step.Below.irrefl {step : Step} : ¬ Step.Below step step
  | .place less => Nat.lt_irrefl _ less
  | .key less => String.lt_irrefl _ less

theorem PathUpTo.trans (upTo : PathUpTo first second) (further : PathUpTo second third) :
    PathUpTo first third := by
  rcases upTo with rfl | below
  · exact further
  · rcases further with rfl | above
    · exact .inr below
    · exact .inr (List.lex_trans Step.Below.trans below above)

theorem Step.before?_eq_true {first second : Step} :
    first.before? second = some true ↔ Step.Below first second := by
  cases first with
  | index m =>
    cases second with
    | index n =>
      rw [Step.before?, Option.some.injEq, decide_eq_true_iff]
      exact ⟨.place, fun | .place less => less⟩
    | key t => exact ⟨nofun, nofun⟩
  | key s =>
    cases second with
    | index n => exact ⟨nofun, nofun⟩
    | key t =>
      rw [Step.before?, Option.some.injEq, decide_eq_true_iff]
      exact ⟨.key, fun | .key less => less⟩

theorem Step.before?_eq_false {first second : Step} (after : first.before? second = some false) :
    first = second ∨ Step.Below second first := by
  cases first with
  | index m =>
    cases second with
    | index n =>
      rw [Step.before?, Option.some.injEq, decide_eq_false_iff_not, Nat.not_lt] at after
      rcases Nat.eq_or_lt_of_le after with same | less
      · exact .inl (congrArg Step.index same.symm)
      · exact .inr (.place less)
    | key t => cases after
  | key s =>
    cases second with
    | index n => cases after
    | key t =>
      rw [Step.before?, Option.some.injEq, decide_eq_false_iff_not, String.not_lt] at after
      by_cases less : t < s
      · exact .inr (.key less)
      · have same := String.le_antisymm (String.not_lt.mp less) after
        exact .inl (congrArg Step.key same)

/-- Comparing two paths tells whether the first is below the second. -/
theorem pathBefore?_eq_true : pathBefore? first second = some true ↔ PathBelow first second := by
  induction first generalizing second with
  | nil =>
    cases second with
    | nil => exact ⟨nofun, nofun⟩
    | cons step rest => exact ⟨fun _ => .nil, fun _ => rfl⟩
  | cons step rest ih =>
    cases second with
    | nil => exact ⟨nofun, nofun⟩
    | cons other others =>
      rw [pathBefore?, PathBelow, List.cons_lex_cons_iff]
      split
      · rename_i same
        subst same
        rw [ih]
        constructor
        · exact fun below => .inr ⟨rfl, below⟩
        · rintro (below | ⟨-, below⟩)
          · exact absurd below Step.Below.irrefl
          · exact below
      · rename_i differ
        rw [Step.before?_eq_true]
        exact ⟨.inl, fun | .inl below => below | .inr ⟨same, _⟩ => absurd same differ⟩

theorem pathBefore?_eq_false (after : pathBefore? first second = some false) :
    PathUpTo second first := by
  induction first generalizing second with
  | nil =>
    cases second with
    | nil => exact .inl rfl
    | cons step rest => cases after
  | cons step rest ih =>
    cases second with
    | nil => exact .inr .nil
    | cons other others =>
      rw [pathBefore?] at after
      split at after
      · rename_i same
        subst same
        exact (ih after).imp (congrArg _) .cons
      · rename_i differ
        rcases Step.before?_eq_false after with same | below
        · exact absurd same differ
        · exact .inr (.rel below)

theorem Step.isSome_before? {first second : Step} {value left right : Value}
    (here : first.into? value = some left) (there : second.into? value = some right) :
    (first.before? second).isSome = true := by
  cases first with
  | index place =>
    cases second with
    | index other => rfl
    | key name =>
      cases value with
      | list values => cases there
      | _ => cases here
  | key name =>
    cases second with
    | key other => rfl
    | index place =>
      cases value with
      | object entries => cases there
      | _ => cases here

/-- Two paths into one value can be compared. -/
theorem isSome_pathBefore? (here : follow? first value = some left)
    (there : follow? second value = some right) : (pathBefore? first second).isSome = true := by
  induction first generalizing second value with
  | nil => cases second <;> rfl
  | cons step rest ih =>
    cases second with
    | nil => rfl
    | cons other others =>
      obtain ⟨inside, into, here⟩ := Option.bind_eq_some_iff.mp here
      obtain ⟨beside, intoOther, there⟩ := Option.bind_eq_some_iff.mp there
      rw [pathBefore?]
      split
      · -- the rests of the paths lead into one value again
        rename_i same
        subst same
        cases into.symm.trans intoOther
        exact ih here there
      · exact Step.isSome_before? into intoOther

end

/-- Places are compared as numbers, and not with keys. -/
example : pathBefore? [.index 9] [.index 10, .key "field"] = some true ∧
    pathBefore? [.index 0, .key "field"] [.index 0, .index 1] = none := by decide

/-! ## Where violations are found -/

/-- A violation is found under a path to a value: its own path goes on from there and leads from the
value to the part that is at fault. -/
def FoundUnder (path : List Step) (value : Value) (violation : Violation) : Prop :=
  ∃ rest, violation.path = path ++ rest ∧ follow? rest value = some violation.value

theorem FoundUnder.here (requirement : Requirement) :
    FoundUnder path value ⟨path, value, requirement⟩ :=
  ⟨[], (List.append_nil path).symm, rfl⟩

theorem FoundUnder.step {step : Step} (into : step.into? value = some part)
    (found : FoundUnder (path ++ [step]) part violation) : FoundUnder path value violation := by
  obtain ⟨rest, onward, leads⟩ := found
  refine ⟨step :: rest, ?_, ?_⟩
  · rw [onward, List.append_assoc, List.singleton_append]
  · rw [follow?, into, Option.bind_some, leads]

theorem FoundUnder.leads (found : FoundUnder [] value violation) :
    follow? violation.path value = some violation.value := by
  obtain ⟨rest, same, leads⟩ := found
  rw [same]
  exact leads

/-- A violation is found among values of which the first has a place: under the path to the place of
one of them. -/
def FoundAmong (path : List Step) (place : Nat) (values : List Value) (violation : Violation) :
    Prop :=
  ∃ further value, values[further]? = some value ∧
    FoundUnder (path ++ [.index (place + further)]) value violation

theorem FoundAmong.first (found : FoundUnder (path ++ [.index place]) value violation) :
    FoundAmong path place (value :: values) violation :=
  ⟨0, value, rfl, found⟩

theorem FoundAmong.later (found : FoundAmong path (place + 1) values violation) :
    FoundAmong path place (value :: values) violation := by
  obtain ⟨further, part, held, found⟩ := found
  refine ⟨further + 1, part, held, ?_⟩
  rwa [Nat.add_assoc, Nat.add_comm 1] at found

theorem FoundAmong.inList (found : FoundAmong path 0 values violation) :
    FoundUnder path (.list values) violation := by
  obtain ⟨place, part, held, found⟩ := found
  have into : (Step.index (0 + place)).into? (.list values) = some part := by
    rwa [Nat.zero_add]
  exact found.step into

/-- A violation is found in the entry of an object under a key. -/
def FoundIn (path : List Step) (key : String) (entries : List (Text × Value))
    (violation : Violation) : Prop :=
  ∃ value, Entries.get? entries key = some value ∧
    FoundUnder (path ++ [.key key]) value violation

theorem FoundIn.first {key : String} {rest : List (Text × Value)}
    (found : FoundUnder (path ++ [.key key]) value violation) :
    FoundIn path key ((key, value) :: rest) violation :=
  ⟨value, (Entries.get?_cons ..).trans (if_pos rfl), found⟩

theorem FoundIn.later {key : String} {other : Text} {rest : List (Text × Value)}
    (differs : other ≠ key) (found : FoundIn path key rest violation) :
    FoundIn path key ((other, value) :: rest) violation := by
  obtain ⟨part, held, found⟩ := found
  exact ⟨part, ((Entries.get?_cons ..).trans (if_neg differs)).trans held, found⟩

theorem FoundIn.inObject {key : String} {entries : Entries}
    (found : FoundIn path key entries violation) : FoundUnder path (.object entries) violation := by
  obtain ⟨part, held, found⟩ := found
  have into : (Step.key key).into? (.object entries) = some part := held
  exact found.step into

/-! ## The violations of a value -/

theorem notOfKind_found {name : String} (member : violation ∈ notOfKind name path value) :
    FoundUnder path value violation := by
  obtain rfl := List.mem_singleton.mp member
  exact .here _

theorem lacking_found {key : String} {entries : Entries}
    (member : violation ∈ lacking key path entries) :
    FoundUnder path (.object entries) violation := by
  unfold lacking at member
  split at member
  · cases member
  · obtain rfl := List.mem_singleton.mp member
    exact .here _

theorem notText_found {key : String} {entries : Entries}
    (member : violation ∈ notText key path entries) :
    FoundUnder path (.object entries) violation := by
  unfold notText at member
  split at member
  · cases member
  · cases member
  · rename_i held
    exact FoundIn.inObject ⟨_, held, notOfKind_found member⟩

mutual

theorem itemListViolations_found {path : List Step} {place : Nat} {violation : Violation} :
    ∀ {values : List Value}, violation ∈ itemListViolations path place values →
      FoundAmong path place values violation
  | _ :: _, member => by
    rcases List.mem_append.mp member with here | later
    · exact .first (itemViolations_found here)
    · exact .later (itemListViolations_found later)

theorem itemViolations_found {path : List Step} {violation : Violation} :
    ∀ {value : Value}, violation ∈ itemViolations path value → FoundUnder path value violation
  | .object _, member => by
    rw [itemViolations, List.mem_append, List.mem_append] at member
    rcases member with (comparator | conditions) | missing
    · exact notText_found comparator
    · exact (conditionsInViolations_found conditions).inObject
    · exact lacking_found missing
  | .null, member | .bool _, member | .int _, member | .float _, member | .str _, member
  | .list _, member => notOfKind_found member

theorem conditionsInViolations_found {path : List Step} {violation : Violation} :
    ∀ {entries : List (Text × Value)}, violation ∈ conditionsInViolations path entries →
      FoundIn path conditionKey entries violation
  | (key, value) :: _, member => by
    rw [conditionsInViolations] at member
    split at member
    · rename_i same
      subst same
      exact .first (conditionsViolations_found member)
    · rename_i differs
      exact .later differs (conditionsInViolations_found member)

theorem conditionsViolations_found {path : List Step} {violation : Violation} :
    ∀ {value : Value}, violation ∈ conditionsViolations path value →
      FoundUnder path value violation
  | .list _, member => (conditionListViolations_found member).inList
  | .null, member | .bool _, member | .int _, member | .float _, member | .str _, member
  | .object _, member => notOfKind_found member

theorem conditionListViolations_found {path : List Step} {place : Nat} {violation : Violation} :
    ∀ {values : List Value}, violation ∈ conditionListViolations path place values →
      FoundAmong path place values violation
  | _ :: _, member => by
    rcases List.mem_append.mp member with here | later
    · exact .first (conditionViolations_found here)
    · exact .later (conditionListViolations_found later)

theorem conditionViolations_found {path : List Step} {violation : Violation} :
    ∀ {value : Value}, violation ∈ conditionViolations path value → FoundUnder path value violation
  | .object _, member => by
    rw [conditionViolations, List.mem_append, List.mem_append, List.mem_append] at member
    rcases member with ((field | comparator) | content) | missing
    · exact notText_found field
    · exact notText_found comparator
    · exact (contentInViolations_found content).inObject
    · exact lacking_found missing
  | .null, member | .bool _, member | .int _, member | .float _, member | .str _, member
  | .list _, member => notOfKind_found member

theorem contentInViolations_found {path : List Step} {violation : Violation} :
    ∀ {entries : List (Text × Value)}, violation ∈ contentInViolations path entries →
      FoundIn path valueKey entries violation
  | (key, value) :: _, member => by
    rw [contentInViolations] at member
    split at member
    · rename_i same
      subst same
      exact .first (contentViolations_found member)
    · rename_i differs
      exact .later differs (contentInViolations_found member)

theorem contentViolations_found {path : List Step} {violation : Violation} :
    ∀ {value : Value}, violation ∈ contentViolations path value → FoundUnder path value violation
  | .list _, member => by
    rw [contentViolations] at member
    split at member
    · cases member
    · obtain rfl := List.mem_singleton.mp member
      exact .here _
  | .object _, member => by
    obtain rfl := List.mem_singleton.mp member
    exact .here _

end

/-- What is wrong with a value as a filter is found in it. -/
theorem violations_found (member : violation ∈ violations value) :
    FoundUnder [] value violation := by
  unfold violations itemsViolations at member
  split at member
  · exact (itemListViolations_found member).inList
  · exact notOfKind_found member

theorem requestListViolations_found (member : violation ∈ requestListViolations place values) :
    FoundAmong [] place values violation := by
  induction values generalizing place with
  | nil => cases member
  | cons request rest ih =>
    rcases List.mem_append.mp member with here | later
    · refine .first ?_
      cases request with
      | object entries =>
        rcases List.mem_append.mp here with field | missing
        · exact notText_found field
        · exact lacking_found missing
      | _ => exact notOfKind_found here
    · exact .later (ih later)

/-- What is wrong with a value as a sort list is found in it. -/
theorem sortViolations_found (member : violation ∈ sortViolations value) :
    FoundUnder [] value violation := by
  unfold sortViolations at member
  split at member
  · exact (requestListViolations_found member).inList
  · exact notOfKind_found member

/-! ## Comparing paths -/

theorem comparable_iff {found : List Violation} : Violation.comparable found = true ↔
    ∀ first ∈ found, ∀ second ∈ found, (pathBefore? first.path second.path).isSome = true := by
  simp only [Violation.comparable, List.all_eq_true]

/-- The paths of violations that are found in one value can be compared with one another. -/
theorem comparable_of_found {found : List Violation}
    (inside : ∀ violation ∈ found, FoundUnder [] value violation) :
    Violation.comparable found = true := by
  refine comparable_iff.mpr fun first here second there => ?_
  exact isSome_pathBefore? (inside first here).leads (inside second there).leads

/-- Violations of one value can always be sorted, and the least is reported. -/
theorem firstViolation_of_found {found : List Violation}
    (inside : ∀ violation ∈ found, FoundUnder [] value violation) :
    firstViolation found = .ok (Violation.least? found) := by
  rw [firstViolation, if_pos (comparable_of_found inside)]

end SurveyDesk.Filter
