import SurveyDesk.Proofs.Filter.Shape
import SurveyDesk.Proofs.Query.Compiled

/-! Strict compilers. A strict compiler refuses a filter for a field that is repeated in one item,
and a compiler that is not strict never does. Which items count is a matter of the recursion: a list
that is nested in a condition on an allowed field is compiled before the comparator of the condition
is looked at, so that an item is looked at even if the condition it is nested in is dropped for an
unknown comparator. -/
namespace SurveyDesk.Query
open SurveyDesk.Filter (Item Condition Content Comparison listData ConditionsNamed ItemsNamed
  ContentNamed ItemsTyped)

/-! ## Repeated fields -/

/-- A condition that is kept, for a field: the field is allowed and the comparator is missing or
known. -/
structure Survives (fields : List Text) (name : Text) (condition : Condition) : Prop where
  allowed : name ∈ fields
  field : condition.field = .str name
  known : (Comparison.of? condition.comparator).isSome

/-- Two of several conditions are kept for one field. -/
def Repeats (fields : List Text) (name : Text) (conditions : List Condition) : Prop :=
  ∃ first second, [first, second].Sublist conditions ∧
    Survives fields name first ∧ Survives fields name second

/-- A condition on a field that is allowed, whatever its comparator. -/
def OnAllowed (fields : List Text) (condition : Condition) : Prop :=
  ∃ name ∈ fields, condition.field = .str name

/-- An item is reached from items by way of conditions of a kind. -/
inductive Reached (through : Condition → Prop) : List Item → Item → Prop
  | here (member : item ∈ items) : Reached through items item
  | inside (member : item ∈ items) (holds : condition ∈ item.conditions) (leads : through condition)
    (list : condition.content = .nested below) (further : Reached through below found) :
    Reached through items found

/-- An item that is reached repeats a field. -/
def ItemsClash (fields : List Text) (items : List Item) (name : Text) : Prop :=
  ∃ item, Reached (OnAllowed fields) items item ∧ Repeats fields name item.conditions

/-- An item that is reached in what a condition compares with repeats a field. -/
def ContentClash (fields : List Text) (content : Content) (name : Text) : Prop :=
  ∃ items, content = .nested items ∧ ItemsClash fields items name

/-- Conditions repeat a field, perhaps one that was seen before them, or an item that is reached
from them does. -/
def ConditionsClash (fields seen : List Text) (conditions : List Condition) (name : Text) :
    Prop :=
  ((name ∈ seen ∧ ∃ condition ∈ conditions, Survives fields name condition) ∨
    Repeats fields name conditions) ∨
  ∃ condition ∈ conditions, OnAllowed fields condition ∧ ContentClash fields condition.content name

variable {fields seen : List Text}

theorem Survives.unique (survives : Survives fields name condition)
    (other : Survives fields name' condition) : name = name' := by
  have same := survives.field.symm.trans other.field
  cases same
  rfl

theorem Survives.onAllowed (survives : Survives fields name condition) :
    OnAllowed fields condition := ⟨name, survives.allowed, survives.field⟩

theorem repeats_cons : Repeats fields name (condition :: rest) ↔
    (Survives fields name condition ∧ ∃ other ∈ rest, Survives fields name other) ∨
      Repeats fields name rest := by
  constructor
  · rintro ⟨first, second, inOrder, one, two⟩
    cases inOrder with
    | cons _ later => exact Or.inr ⟨first, second, later, one, two⟩
    | cons_cons _ later =>
      exact Or.inl ⟨one, second, List.singleton_sublist.mp later, two⟩
  · rintro (⟨one, other, member, two⟩ | ⟨first, second, inOrder, one, two⟩)
    · exact ⟨condition, other, (List.singleton_sublist.mpr member).cons_cons condition, one, two⟩
    · exact ⟨first, second, inOrder.cons condition, one, two⟩

theorem conditionsClash_cons : ConditionsClash fields seen (condition :: rest) name ↔
    (Survives fields name condition ∧
      (name ∈ seen ∨ ∃ other ∈ rest, Survives fields name other)) ∨
    (OnAllowed fields condition ∧ ContentClash fields condition.content name) ∨
    ConditionsClash fields seen rest name := by
  unfold ConditionsClash
  rw [repeats_cons]
  simp only [List.mem_cons, or_and_right, exists_or, exists_eq_left]
  grind

/-- A condition on a field that is not allowed makes no difference. -/
theorem conditionsClash_dropped (dropped : ¬ OnAllowed fields condition) :
    ConditionsClash fields seen (condition :: rest) name ↔
      ConditionsClash fields seen rest name := by
  have gone : ¬ Survives fields name condition := fun survives => dropped survives.onAllowed
  rw [conditionsClash_cons]
  grind

/-- Of a condition with an unknown comparator what it compares with is looked at all the same. -/
theorem conditionsClash_unknown (allowed : OnAllowed fields condition)
    (unknown : ¬ (Comparison.of? condition.comparator).isSome) :
    ConditionsClash fields seen (condition :: rest) name ↔
      ContentClash fields condition.content name ∨ ConditionsClash fields seen rest name := by
  have gone : ¬ Survives fields name condition := fun survives => unknown survives.known
  rw [conditionsClash_cons]
  grind

theorem conditionsClash_kept (survives : Survives fields kept condition)
    (fresh : kept ∉ seen) :
    ConditionsClash fields seen (condition :: rest) name ↔
      ContentClash fields condition.content name ∨
        ConditionsClash fields (kept :: seen) rest name := by
  have own : Survives fields name condition ↔ name = kept :=
    ⟨fun other => other.unique survives, fun same => same ▸ survives⟩
  have allowed := survives.onAllowed
  rw [conditionsClash_cons, own]
  unfold ConditionsClash
  rw [List.mem_cons]
  grind

theorem reached_cons {through : Condition → Prop} : Reached through (item :: rest) found ↔
    (found = item ∨ ∃ condition ∈ item.conditions, through condition ∧
      ∃ below, condition.content = .nested below ∧ Reached through below found) ∨
    Reached through rest found := by
  constructor
  · rintro (member | ⟨member, holds, leads, list, further⟩)
    · rcases List.mem_cons.mp member with rfl | later
      · exact Or.inl (Or.inl rfl)
      · exact Or.inr (.here later)
    · rcases List.mem_cons.mp member with rfl | later
      · exact Or.inl (Or.inr ⟨_, holds, leads, _, list, further⟩)
      · exact Or.inr (.inside later holds leads list further)
  · rintro ((rfl | ⟨condition, holds, leads, below, list, further⟩) |
      (later | ⟨member, holds, leads, list, further⟩))
    · exact .here List.mem_cons_self
    · exact .inside List.mem_cons_self holds leads list further
    · exact .here (List.mem_cons_of_mem _ later)
    · exact .inside (List.mem_cons_of_mem _ member) holds leads list further

theorem itemsClash_cons : ItemsClash fields (.group combinator conditions :: rest) name ↔
    ConditionsClash fields [] conditions name ∨ ItemsClash fields rest name := by
  constructor
  · rintro ⟨item, reached, repeats⟩
    rcases reached_cons.mp reached with
      (rfl | ⟨condition, holds, leads, below, list, further⟩) | later
    · exact Or.inl (Or.inl (Or.inr repeats))
    · exact Or.inl (Or.inr ⟨condition, holds, leads, below, list, item, further, repeats⟩)
    · exact Or.inr ⟨item, later, repeats⟩
  · rintro (((⟨has, -⟩ | repeats) |
      ⟨condition, holds, leads, below, list, item, further, repeats⟩) | ⟨item, later, repeats⟩)
    · cases has
    · exact ⟨_, .here List.mem_cons_self, repeats⟩
    · exact ⟨item, .inside List.mem_cons_self holds leads list further, repeats⟩
    · exact ⟨item, reached_cons.mpr (Or.inr later), repeats⟩

/-! ## Verdicts -/

/-- A computation stops exactly if it is strict and there is a clash, and for a field that
clashes. -/
def Judges {α : Type} (strict : Bool) (clash : Text → Prop) : Except Refusal α → Prop
  | .ok _ => strict = true → ∀ name, ¬ clash name
  | .error refusal => strict = true ∧ ∃ name, refusal = .repeatedField name ∧ clash name

section
variable {strict : Bool} {α β : Type}

theorem Judges.congr {clash clash' : Text → Prop} {result : Except Refusal α}
    (judges : Judges strict clash result)
    (same : strict = true → ∀ name, clash name ↔ clash' name) :
    Judges strict clash' result := by
  cases result with
  | ok answer => exact fun isStrict name has => judges isStrict name ((same isStrict name).mpr has)
  | error refusal =>
    obtain ⟨isStrict, name, refused, has⟩ := judges
    exact ⟨isStrict, name, refused, (same isStrict name).mp has⟩

theorem Judges.bind {here there : Text → Prop} {first : Except Refusal α}
    {next : α → Except Refusal β} (before : Judges strict here first)
    (after : ∀ answer, first = .ok answer → Judges strict there (next answer)) :
    Judges strict (fun name => here name ∨ there name) (first >>= next) := by
  cases first with
  | error refusal =>
    obtain ⟨isStrict, name, refused, has⟩ := before
    exact ⟨isStrict, name, refused, Or.inl has⟩
  | ok answer =>
    rw [ok_bind]
    refine (after answer rfl).congr fun isStrict name => ?_
    exact (or_iff_right (before isStrict name)).symm

theorem Judges.map {clash : Text → Prop} {first : Except Refusal α} {change : α → β}
    (judges : Judges strict clash first) :
    Judges strict clash (first >>= fun answer => .ok (change answer)) := by
  cases first <;> exact judges

end

variable {compiler : Compiler}

mutual

theorem judges_items (apart : Predicate.orKey ∉ compiler.filterFields) :
    ∀ (done rest : List Item), ItemsNamed rest →
      Judges compiler.strict (ItemsClash compiler.filterFields rest)
        (compileItems compiler (listData compiler.filterFields done) rest)
  | done, [], _ => fun _ name clash => by
    obtain ⟨item, member | ⟨member, _, _, _, _⟩, -⟩ := clash <;> cases member
  | done, .group combinator conditions :: rest, named => by
    have none : ∀ name, Entries.has [] name ↔ name ∈ [] := fun name =>
      iff_of_false Bool.false_ne_true List.not_mem_nil
    have inside := judges_conditions apart [] [] conditions none named.1
    rw [compileItems]
    refine (inside.bind fun pairs found => ?_).congr fun _ name => itemsClash_cons.symm
    rw [compileConditions_eq apart conditions [] pairs found,
      show Entries.putAll [] _ = Entries.ofPairs _ from rfl, joined_listData apart, ok_bind]
    exact judges_items apart (done ++ [.group combinator conditions]) rest named.2

theorem judges_conditions (apart : Predicate.orKey ∉ compiler.filterFields) :
    ∀ (seen : List Text) (before : Entries) (conditions : List Condition),
      (∀ name, before.has name ↔ name ∈ seen) → ConditionsNamed conditions →
        Judges compiler.strict (ConditionsClash compiler.filterFields seen conditions)
          (compileConditions compiler before conditions)
  | seen, before, [], _, _ => fun _ name clash => by
    obtain (⟨-, _, member, -⟩ | ⟨_, _, inOrder, -⟩) | ⟨_, member, -⟩ := clash
    · cases member
    · cases inOrder
    · cases member
  | seen, before, .compare (.str text) comparator content :: rest, keys, ⟨_, named, others⟩ => by
    have inside := judges_content apart content named
    have behind := judges_conditions apart seen before rest keys others
    have onward : ∀ value, Judges compiler.strict
        (ConditionsClash compiler.filterFields (text :: seen) rest)
        (compileConditions compiler (before.put text value) rest) := fun value =>
      judges_conditions apart (text :: seen) (before.put text value) rest
        (fun name => by rw [Entries.has_put, List.mem_cons, keys]) others
    rw [compileConditions, allowed?, ok_bind]
    by_cases listed : text ∈ compiler.filterFields
    · have allowed : OnAllowed compiler.filterFields (.compare (.str text) comparator content) :=
        ⟨text, listed, rfl⟩
      rw [if_pos (List.contains_iff_mem.mpr listed)]
      cases known : Comparison.of? comparator with
      | none =>
        have unknown : ¬ (Comparison.of? comparator).isSome := by
          rw [known]
          decide
        refine (inside.bind fun operand _ => ?_).congr fun _ name =>
          (conditionsClash_unknown allowed unknown).symm
        rw [expectation?_eq, known]
        exact behind
      | some comparison =>
        have survives : Survives compiler.filterFields text
            (.compare (.str text) comparator content) := ⟨listed, rfl, by
          rw [Condition.comparator, known]
          rfl⟩
        by_cases repeated : compiler.strict ∧ text ∈ seen
        · -- The field was seen, so the condition clashes whatever comes after it.
          have clashes : ConditionsClash compiler.filterFields seen
              (.compare (.str text) comparator content :: rest) text :=
            conditionsClash_cons.mpr (Or.inl ⟨survives, Or.inl repeated.2⟩)
          refine (inside.bind fun operand _ => ?_).congr fun _ name =>
            or_iff_right_of_imp fun deeper =>
              conditionsClash_cons.mpr (Or.inr (Or.inl ⟨allowed, deeper⟩))
          rw [expectation?_eq, known, Option.map_some, repeated.1, (keys text).mpr repeated.2]
          exact ⟨rfl, text, rfl, clashes⟩
        · refine (inside.bind fun operand _ => ?_).congr fun isStrict name =>
            (conditionsClash_kept survives fun member => repeated ⟨isStrict, member⟩).symm
          have goesOn : ¬ (compiler.strict && before.has text) := by
            rw [Bool.and_eq_true, keys]
            exact repeated
          rw [expectation?_eq, known, Option.map_some]
          dsimp only
          rw [if_neg goesOn]
          exact onward _
    · rw [if_neg (mt List.contains_iff_mem.mp listed)]
      have dropped : ¬ OnAllowed compiler.filterFields
          (.compare (.str text) comparator content) := by
        rintro ⟨name, member, same⟩
        cases same
        exact listed member
      exact behind.congr fun _ name => (conditionsClash_dropped dropped).symm

theorem judges_content (apart : Predicate.orKey ∉ compiler.filterFields) :
    ∀ content : Content, ContentNamed content →
      Judges compiler.strict (ContentClash compiler.filterFields content)
        (compileContent compiler content)
  | .scalar value, _ => fun _ name clash => by
    obtain ⟨items, same, -⟩ := clash
    cases same
  | .nested items, named => by
    have inside : Judges compiler.strict (ItemsClash compiler.filterFields items)
        (compileItems compiler [] items) := judges_items apart [] items named
    rw [compileContent]
    refine inside.map.congr fun _ name => ⟨fun clash => ⟨items, rfl, clash⟩, ?_⟩
    rintro ⟨_, same, clash⟩
    cases same
    exact clash

end

/-! ## Whole filters -/

/-- A filter within the limits is compiled unless the compiler is strict and an item that is reached
repeats a field. -/
theorem judges_compileFilter (apart : Predicate.orKey ∉ compiler.filterFields)
    (within : compiler.limits.check items = .ok ()) (named : ItemsNamed items) :
    Judges compiler.strict (ItemsClash compiler.filterFields items)
      (compiler.compileFilter items) := by
  rw [Compiler.compileFilter, within, ok_bind]
  exact judges_items apart [] items named

/-- A compiler that is not strict compiles every filter within its limits whose fields are texts. -/
theorem compileFilter_lenient (apart : Predicate.orKey ∉ compiler.filterFields)
    (lenient : compiler.strict = false) (within : compiler.limits.check items = .ok ())
    (named : ItemsNamed items) :
    compiler.compileFilter items = .ok (listData compiler.filterFields items) := by
  have judges := judges_compileFilter apart within named
  cases answered : compiler.compileFilter items with
  | error refusal =>
    rw [answered, lenient] at judges
    cases judges.1
  | ok compiled => rw [compileFilter_eq apart answered]

/-- A compiler that is not strict compiles every filter of the promised shape that is within its
limits. -/
theorem compileFilter_answers (apart : Predicate.orKey ∉ compiler.filterFields)
    (lenient : compiler.strict = false) (within : compiler.limits.check items = .ok ())
    (typed : ItemsTyped items) :
    compiler.compileFilter items = .ok (listData compiler.filterFields items) :=
  compileFilter_lenient apart lenient within typed.named

/-- A condition that is kept, for whatever field. -/
def Kept (fields : List Text) (condition : Condition) : Prop :=
  ∃ name, Survives fields name condition

theorem Reached.mono {through through' : Condition → Prop} (reached : Reached through items item)
    (wider : ∀ condition, through condition → through' condition) :
    Reached through' items item := by
  induction reached with
  | here member => exact .here member
  | inside member holds leads list _ ih => exact .inside member holds (wider _ leads) list ih

/-- Where an item is reached, no list is nested in a condition that is dropped for its comparator. -/
def ListsKept (fields : List Text) (items : List Item) : Prop :=
  ∀ item, Reached (OnAllowed fields) items item → ∀ condition ∈ item.conditions,
    OnAllowed fields condition → ∀ below, condition.content = .nested below → Kept fields condition

theorem Reached.kept (reached : Reached (OnAllowed fields) items item)
    (lists : ListsKept fields items) : Reached (Kept fields) items item := by
  induction reached with
  | here member => exact .here member
  | inside member holds leads list _ ih =>
    have kept := lists _ (.here member) _ holds leads _ list
    refine .inside member holds kept list (ih ?_)
    exact fun deeper reached => lists deeper (.inside member holds leads list reached)

/-- A strict compiler stops for a filter within the limits exactly if an item that is reached
through conditions on allowed fields repeats a field, and then names such a field. An item that is
reached through conditions that are kept is one of these, and the only kind where no list is nested
in a condition with an unknown comparator. In all other cases the answer is that of the compiler
that is not strict. -/
theorem compileFilter_strict (compiler : Compiler) (items : List Item)
    (strict : compiler.strict = true)
    (apart : Predicate.orKey ∉ compiler.filterFields)
    (within : compiler.limits.check items = .ok ()) (named : ItemsNamed items) :
    ((∃ name, compiler.compileFilter items = .error (.repeatedField name)) ↔
      ∃ name, ItemsClash compiler.filterFields items name) ∧
    (∀ refusal, compiler.compileFilter items = .error refusal →
      ∃ name, refusal = .repeatedField name ∧ ItemsClash compiler.filterFields items name) ∧
    ((∃ name item, Reached (Kept compiler.filterFields) items item ∧
        Repeats compiler.filterFields name item.conditions) →
      ∃ name, compiler.compileFilter items = .error (.repeatedField name)) ∧
    (ListsKept compiler.filterFields items →
      (∃ name, compiler.compileFilter items = .error (.repeatedField name)) →
      ∃ name item, Reached (Kept compiler.filterFields) items item ∧
        Repeats compiler.filterFields name item.conditions) ∧
    ((∀ name, ¬ ItemsClash compiler.filterFields items name) →
      ∃ compiled, compiler.compileFilter items = .ok compiled ∧
        Compiler.compileFilter { compiler with strict := false } items = .ok compiled) := by
  have judges := judges_compileFilter apart within named
  have stops : ∀ name, ItemsClash compiler.filterFields items name →
      ∃ name, compiler.compileFilter items = .error (.repeatedField name) := by
    intro name clash
    cases answered : compiler.compileFilter items with
    | ok compiled =>
      rw [answered] at judges
      exact absurd clash (judges strict name)
    | error refusal =>
      rw [answered] at judges
      obtain ⟨-, repeated, rfl, -⟩ := judges
      exact ⟨repeated, rfl⟩
  have reasons : ∀ refusal, compiler.compileFilter items = .error refusal →
      ∃ name, refusal = .repeatedField name ∧ ItemsClash compiler.filterFields items name := by
    intro refusal refused
    rw [refused] at judges
    exact judges.2
  refine ⟨⟨?_, fun ⟨name, clash⟩ => stops name clash⟩, reasons, ?_, ?_, ?_⟩
  · rintro ⟨name, refused⟩
    obtain ⟨repeated, -, clash⟩ := reasons _ refused
    exact ⟨repeated, clash⟩
  · rintro ⟨name, item, reached, repeats⟩
    exact stops name ⟨item, reached.mono fun _ ⟨_, survives⟩ => survives.onAllowed, repeats⟩
  · rintro lists ⟨name, refused⟩
    obtain ⟨repeated, -, item, reached, repeats⟩ := reasons _ refused
    exact ⟨repeated, item, reached.kept lists, repeats⟩
  · intro distinct
    have same : Compiler.compileFilter { compiler with strict := false } items =
        .ok (listData compiler.filterFields items) := compileFilter_lenient apart rfl within named
    cases answered : compiler.compileFilter items with
    | ok compiled =>
      rw [compileFilter_eq apart answered]
      exact ⟨_, rfl, same⟩
    | error refusal =>
      obtain ⟨name, -, clash⟩ := reasons refusal answered
      exact absurd clash (distinct name)

/-- A strict compiler for two fields of a survey. -/
private def strictPair : Compiler := ⟨["title", "remark"], [], .standard, true⟩

private def twoRemarks : List Item := [.group .every [
  .compare (.str "remark") .null (.scalar (.str "a")),
  .compare (.str "remark") .null (.scalar (.str "b"))]]

/-- A list with two conditions on one field, nested in a condition that is kept. -/
private def nestedRemarks : List Item :=
  [.group .every [.compare (.str "title") (.str "$ne") (.nested twoRemarks)]]

theorem compileFilter_strict_nestedRemarks :
    ∃ name, strictPair.compileFilter nestedRemarks = .error (.repeatedField name) := by
  have survives : ∀ text, Survives ["title", "remark"] "remark"
      (.compare (.str "remark") .null (.scalar (.str text))) := fun text =>
    ⟨by decide, rfl, rfl⟩
  refine (compileFilter_strict strictPair nestedRemarks rfl (by decide) rfl
    ⟨⟨rfl, ⟨⟨rfl, trivial, rfl, trivial, trivial⟩, trivial⟩, trivial⟩, trivial⟩).2.2.1 ⟨"remark", _,
      .inside List.mem_cons_self List.mem_cons_self ?_ rfl (.here List.mem_cons_self), _, _,
      List.Sublist.refl _, survives "a", survives "b"⟩
  exact ⟨"title", by decide, rfl, rfl⟩

/-- The same list, nested in a condition that is dropped for its comparator. -/
private def droppedRemarks : List Item :=
  [.group .every [.compare (.str "title") (.str "$foo") (.nested twoRemarks)]]

/-- The repeated field stops the compiler although no item that is reached through conditions that
are kept repeats a field. -/
theorem not_only_kept_droppedRemarks :
    strictPair.compileFilter droppedRemarks = .error (.repeatedField "remark") ∧
    ¬ ∃ name item, Reached (Kept strictPair.filterFields) droppedRemarks item ∧
      Repeats strictPair.filterFields name item.conditions := by
  refine ⟨rfl, ?_⟩
  rintro ⟨name, item, member | ⟨member, holds, ⟨_, survives⟩, -, -⟩, first, second, inOrder, -⟩
  · cases List.mem_singleton.mp member
    exact Nat.not_succ_le_self 1 inOrder.length_le
  · cases List.mem_singleton.mp member
    cases List.mem_singleton.mp holds
    cases survives.known

end SurveyDesk.Query
