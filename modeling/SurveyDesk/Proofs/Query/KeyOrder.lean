import Mathlib.Data.List.Forall2
import Mathlib.Data.List.Induction
import SurveyDesk.Proofs.Query.Limits
import SurveyDesk.Proofs.Query.Strictness

/-! The exact form of a compiled filter, key by key. Its keys are the fields of the conditions that
count, in order of their first arrival, with the key of alternatives where the first alternative
stands; under a field is what its last condition says, and under the key of alternatives one object
for every alternative, in their order. The same holds in each alternative and in every nested list,
and nothing else about the compiled filter is left open. -/
namespace SurveyDesk.Filter

/-- The conditions that count, under the fields that they name: how they compare, and with what. -/
def clauses (fields : List Text) : List Condition → List (Text × Comparison × Content)
  | [] => []
  | .compare field comparator content :: rest =>
    match clause? fields field comparator with
    | some (name, comparison) => (name, comparison, content) :: clauses fields rest
    | none => clauses fields rest

/-- The conditions that count in the items that are no alternatives. -/
def everyClauses (fields : List Text) (items : List Item) :
    List (Text × Comparison × Content) :=
  items.flatMap fun
    | .group .every conditions => clauses fields conditions
    | .group .either _ => []

/-- The groups of conditions that are alternatives. -/
def alternatives (items : List Item) : List (List Condition) :=
  items.flatMap fun
    | .group .every _ => []
    | .group .either conditions => [conditions]

/-- The keys that items bring along, one after another: the fields of the conditions that count, or
for an alternative the key of alternatives. -/
def itemKeys (fields : List Text) (items : List Item) : List Text :=
  items.flatMap fun
    | .group .every conditions => (clauses fields conditions).map Prod.fst
    | .group .either _ => [Predicate.orKey]

end SurveyDesk.Filter

namespace SurveyDesk.Query
open SurveyDesk.Filter (Item Condition Content Comparison clause? clauses everyClauses alternatives
  itemKeys conditionPairs itemPairs alternativeData listData ItemsTyped)
open Predicate (orKey)

mutual

/-- The object that a list of items is compiled to. Every key is in the place of its first arrival;
a field says what its last condition says, and each alternative has an object of its own. -/
inductive ListForm (fields : List Text) : List Item → Value → Prop where
  | object (expected : Text → Value) (branches : List Value)
    (lasts : ∀ name comparison content,
      lastOn name (everyClauses fields items) = some (comparison, content) →
        ClauseForm fields comparison content (expected name))
    (each : List.Forall₂ (fun conditions branch =>
      ListForm fields [.group .every conditions] branch) (alternatives items) branches) :
    ListForm fields items (.object ((itemKeys fields items).eraseDups.map fun key =>
      (key, if key = orKey then .list branches else expected key)))

/-- What is expected for a comparison: with a scalar as it is, or with a compiled list. -/
inductive ClauseForm (fields : List Text) : Comparison → Content → Value → Prop where
  | scalar (comparison : Comparison) (value : Value) :
    ClauseForm fields comparison (.scalar value) (comparison.expected value)
  | nested (comparison : Comparison) (operand : Value) (form : ListForm fields items operand) :
    ClauseForm fields comparison (.nested items) (comparison.expected operand)

end

/-! ## Keys and what stands last -/

section
variable {fields : List Text} {items : List Item}

theorem clauses_fields : ∀ {conditions : List Condition},
    clause ∈ clauses fields conditions → clause.1 ∈ fields
  | .compare field comparator content :: rest, member => by
    unfold clauses at member
    split at member
    · rename_i name comparison counts
      rcases List.mem_cons.mp member with rfl | later
      · exact (clause?_some counts).1
      · exact clauses_fields later
    · exact clauses_fields member

/-- The clauses of a list are those of its items. -/
theorem mem_everyClauses (member : clause ∈ everyClauses fields items) :
    ∃ item ∈ items, clause ∈ clauses fields item.conditions := by
  obtain ⟨⟨combinator, conditions⟩, here, counts⟩ := List.mem_flatMap.mp member
  cases combinator with
  | every => exact ⟨_, here, counts⟩
  | either => cases counts

theorem mem_alternatives (member : conditions ∈ alternatives items) :
    ∃ item ∈ items, conditions = item.conditions := by
  obtain ⟨⟨combinator, others⟩, here, counts⟩ := List.mem_flatMap.mp member
  cases combinator with
  | every => cases counts
  | either => exact ⟨_, here, List.mem_singleton.mp counts⟩

/-- A key that items bring along, other than that of alternatives, is the field of a clause. -/
theorem mem_itemKeys (member : key ∈ itemKeys fields items) (other : key ≠ orKey) :
    ∃ clause, lastOn key (everyClauses fields items) = some clause := by
  obtain ⟨⟨combinator, conditions⟩, here, brings⟩ := List.mem_flatMap.mp member
  cases combinator with
  | either => exact absurd (List.mem_singleton.mp brings) other
  | every =>
    obtain ⟨clause, counts, rfl⟩ := List.mem_map.mp brings
    have within : clause ∈ everyClauses fields items := List.mem_flatMap.mpr ⟨_, here, counts⟩
    cases last : lastOn clause.1 (everyClauses fields items) with
    | some found => exact ⟨found, rfl⟩
    | none => exact absurd rfl (lastOn_eq_none.mp last clause within)

theorem conditionPairs_eq (conditions : List Condition) :
    conditionPairs fields conditions = (clauses fields conditions).map fun clause =>
      (clause.1, clause.2.1.expected (clause.2.2.data fields)) := by
  induction conditions with
  | nil => rfl
  | cons condition rest ih =>
    obtain ⟨field, comparator, content⟩ := condition
    unfold conditionPairs clauses
    cases clause? fields field comparator with
    | none => exact ih
    | some found => exact congrArg _ ih

theorem keys_itemPairs_eq (branches : List Value) :
    Entries.keys (itemPairs fields branches items) = itemKeys fields items := by
  induction items with
  | nil => rfl
  | cons item rest ih =>
    obtain ⟨combinator, conditions⟩ := item
    cases combinator with
    | every =>
      simp only [itemPairs, Entries.keys_append, ih, conditionPairs_eq]
      simp [itemKeys, Entries.keys]
    | either => simp [itemPairs, ih, itemKeys]

/-- Giving every entry other content gives what stands last other content. -/
theorem lastOn_map (change : Text → α → β) (name : Text) (entries : List (Text × α)) :
    lastOn name (entries.map fun entry => (entry.1, change entry.1 entry.2)) =
      (lastOn name entries).map (change name) := by
  induction entries with
  | nil => rfl
  | cons entry rest ih =>
    obtain ⟨other, content⟩ := entry
    simp only [List.map_cons, lastOn, ih, Option.map_or]
    by_cases same : other = name
    · simp [same]
    · simp [same]

/-- What stands last under a field is what its last clause says. -/
theorem lastOn_itemPairs_eq (branches : List Value) (other : name ≠ orKey) :
    lastOn name (itemPairs fields branches items) =
      (lastOn name (everyClauses fields items)).map fun clause =>
        clause.1.expected (clause.2.data fields) := by
  induction items with
  | nil => rfl
  | cons item rest ih =>
    obtain ⟨combinator, conditions⟩ := item
    cases combinator with
    | every =>
      have first : everyClauses fields (.group .every conditions :: rest) =
        clauses fields conditions ++ everyClauses fields rest := rfl
      have last := lastOn_map (fun _ (clause : Comparison × Content) =>
        clause.1.expected (clause.2.data fields)) name (clauses fields conditions)
      rw [itemPairs, lastOn_append, ih, first, lastOn_append, Option.map_or, conditionPairs_eq,
        last]
    | either =>
      have first : everyClauses fields (.group .either conditions :: rest) =
        everyClauses fields rest := rfl
      rw [itemPairs, lastOn, if_neg (Ne.symm other), Option.or_none, ih, first]

/-- Each alternative is compiled as a list of its own. -/
theorem alternativeData_eq : ∀ items : List Item, alternativeData fields items =
    (alternatives items).map fun conditions => .object (listData fields [.group .every conditions])
  | [] => rfl
  | .group .every _ :: rest => alternativeData_eq rest
  | .group .either conditions :: rest => by
    have single : listData fields [.group .every conditions] =
        Entries.ofPairs (conditionPairs fields conditions) := by
      simp [listData, itemPairs]
    have first : alternatives (.group .either conditions :: rest) =
      conditions :: alternatives rest := rfl
    rw [alternativeData, first, List.map_cons, single, alternativeData_eq rest]

/-! ## Objects key by key -/

theorem foldl_addKey_eq (keys : List Text) :
    keys.foldl Entries.addKey [] = keys.eraseDups := by
  induction keys using List.reverseRecOn with
  | nil => rfl
  | append_singleton keys key ih =>
    rw [List.foldl_append, ih, List.foldl_cons, List.foldl_nil, Entries.addKey,
      List.eraseDups_append]
    by_cases present : key ∈ keys
    · simp [present, List.removeAll]
    · simp [present, List.removeAll, List.eraseDups_cons]

/-- An object that names no key twice is its keys, each with what it leads to. -/
theorem eq_map_keys {entries : Entries} (distinct : entries.keys.Nodup) :
    entries = entries.keys.map fun key => (key, (entries.get? key).getD .null) := by
  have same : entries.map (fun entry => (entry.1, (entries.get? entry.1).getD .null)) =
      entries.map id := by
    apply List.map_congr_left
    rintro ⟨key, value⟩ member
    simp [Entries.get?_of_mem distinct member]
  rw [Entries.keys, List.map_map]
  exact (same.trans (List.map_id entries)).symm

theorem nodup_listData (fields : List Text) (items : List Item) :
    (listData fields items).keys.Nodup :=
  Entries.nodup_ofPairs _

theorem keys_listData (fields : List Text) (items : List Item) :
    (listData fields items).keys = (itemKeys fields items).eraseDups := by
  rw [listData, Entries.ofPairs, Entries.keys_putAll, keys_itemPairs_eq, Entries.keys_nil,
    foldl_addKey_eq]

theorem get?_listData (apart : orKey ∉ fields) (member : key ∈ itemKeys fields items) :
    key = orKey ∧ (listData fields items).get? key = some (.list (alternativeData fields items)) ∨
      key ≠ orKey ∧ ∃ clause, lastOn key (everyClauses fields items) = some clause ∧
        (listData fields items).get? key = some (clause.1.expected (clause.2.data fields)) := by
  rw [listData, Entries.get?_ofPairs]
  by_cases here : key = orKey
  · subst here
    refine .inl ⟨rfl, ?_⟩
    have present : lastOn orKey (itemPairs fields (alternativeData fields items) items) ≠ none := by
      rw [← keys_itemPairs_eq (alternativeData fields items)] at member
      obtain ⟨pair, brought, named⟩ := List.mem_map.mp member
      exact fun absent => lastOn_eq_none.mp absent pair brought named
    rw [lastOn_orKey apart] at present ⊢
    split
    · rename_i empty
      rw [if_pos empty] at present
      exact absurd rfl present
    · rfl
  · obtain ⟨clause, last⟩ := mem_itemKeys member here
    refine .inr ⟨here, clause, last, ?_⟩
    rw [lastOn_itemPairs_eq _ here, last, Option.map_some]

/-- What a clause is compiled to leaves nothing open. -/
def Formed (fields : List Text) (clause : Text × Comparison × Content) : Prop :=
  ∀ value, ClauseForm fields clause.2.1 clause.2.2 value ↔
    value = clause.2.1.expected (clause.2.2.data fields)

/-- The keys of a list's object, each with what it leads to. -/
theorem listData_eq (fields : List Text) (items : List Item) :
    listData fields items = (itemKeys fields items).eraseDups.map fun key =>
      (key, ((listData fields items).get? key).getD .null) := by
  rw [← keys_listData]
  exact eq_map_keys (nodup_listData fields items)

theorem eq_listData_of_form (apart : orKey ∉ fields)
    (every : ∀ clause ∈ everyClauses fields items, Formed fields clause)
    (either : ∀ conditions ∈ alternatives items, ∀ branch,
      ListForm fields [.group .every conditions] branch →
        branch = .object (listData fields [.group .every conditions]))
    (form : ListForm fields items value) : value = .object (listData fields items) := by
  obtain ⟨expected, branches, lasts, each⟩ := form
  have same : branches = alternativeData fields items := by
    rw [alternativeData_eq]
    clear lasts
    generalize alternatives items = groups at each either
    induction each with
    | nil => rfl
    | cons form _ ih =>
      have first := either _ List.mem_cons_self _ form
      rw [List.map_cons, first, ih fun conditions later =>
        either conditions (List.mem_cons_of_mem _ later)]
  rw [listData_eq]
  refine congrArg Value.object (List.map_congr_left fun key member => ?_)
  rcases get?_listData apart (List.mem_eraseDups.mp member) with
    ⟨here, found⟩ | ⟨other, clause, last, found⟩
  · rw [found, if_pos here, same, Option.getD_some]
  · have said := (every _ (mem_of_lastOn last) _).mp (lasts key clause.1 clause.2 last)
    rw [found, if_neg other, said, Option.getD_some]

theorem form_listData (apart : orKey ∉ fields)
    (every : ∀ clause ∈ everyClauses fields items, Formed fields clause)
    (either : ∀ conditions ∈ alternatives items, ListForm fields [.group .every conditions]
      (.object (listData fields [.group .every conditions]))) :
    ListForm fields items (.object (listData fields items)) := by
  let expected (key : Text) : Value := ((listData fields items).get? key).getD .null
  have lasts : ∀ name comparison content,
      lastOn name (everyClauses fields items) = some (comparison, content) →
        ClauseForm fields comparison content (expected name) := by
    intro name comparison content last
    have within := mem_of_lastOn last
    obtain ⟨item, _, counts⟩ := mem_everyClauses within
    have other : name ≠ orKey := fun same => apart (same ▸ clauses_fields counts)
    have found : (listData fields items).get? name =
        some (comparison.expected (content.data fields)) := by
      rw [listData, Entries.get?_ofPairs, lastOn_itemPairs_eq _ other, last, Option.map_some]
    simp only [expected, found, Option.getD_some]
    exact (every _ within _).mpr rfl
  have each : List.Forall₂ (fun conditions branch =>
      ListForm fields [.group .every conditions] branch)
      (alternatives items) (alternativeData fields items) := by
    rw [alternativeData_eq, List.forall₂_map_right_iff, List.forall₂_same]
    exact either
  have form := ListForm.object expected (alternativeData fields items) lasts each
  have same : listData fields items = (itemKeys fields items).eraseDups.map fun key =>
      (key, if key = orKey then .list (alternativeData fields items) else expected key) := by
    rw [listData_eq]
    refine List.map_congr_left fun key member => ?_
    split
    · rename_i here
      rcases get?_listData apart (List.mem_eraseDups.mp member) with ⟨-, found⟩ | ⟨other, -⟩
      · rw [found, Option.getD_some]
      · exact absurd here other
    · rfl
  rw [same]
  exact form

/-- A list is compiled to nothing but the object that it stands for, if that holds of what is
nested in its items. -/
theorem listForm_iff_of (apart : orKey ∉ fields)
    (inside : ∀ item ∈ items, ∀ clause ∈ clauses fields item.conditions, Formed fields clause)
    (value : Value) :
    ListForm fields items value ↔ value = .object (listData fields items) := by
  have every : ∀ clause ∈ everyClauses fields items, Formed fields clause := by
    intro clause member
    obtain ⟨item, here, counts⟩ := mem_everyClauses member
    exact inside item here clause counts
  -- an alternative is a list of one item, which has no alternatives itself
  have alone : ∀ conditions ∈ alternatives items,
      ∀ clause ∈ everyClauses fields [.group .every conditions], Formed fields clause := by
    intro conditions member clause within
    obtain ⟨item, here, rfl⟩ := mem_alternatives member
    rw [everyClauses, List.flatMap_singleton] at within
    exact inside item here clause within
  constructor
  · intro form
    apply eq_listData_of_form apart every _ form
    intro conditions member branch
    exact eq_listData_of_form apart (alone conditions member) nofun
  · rintro rfl
    apply form_listData apart every
    intro conditions member
    exact form_listData apart (alone conditions member) nofun

mutual

theorem clauses_formed (apart : orKey ∉ fields) : ∀ conditions : List Condition,
    ∀ clause ∈ clauses fields conditions, Formed fields clause
  | .compare field comparator content :: rest, clause, member => by
    unfold clauses at member
    split at member
    · rcases List.mem_cons.mp member with rfl | later
      · exact content_formed apart content _
      · exact clauses_formed apart rest clause later
    · exact clauses_formed apart rest clause member

theorem content_formed (apart : orKey ∉ fields) : ∀ (content : Content) (comparison : Comparison)
    (value : Value), ClauseForm fields comparison content value ↔
      value = comparison.expected (content.data fields)
  | .scalar operand, comparison, value => by
    constructor
    · rintro ⟨⟩
      rfl
    · rintro rfl
      exact .scalar comparison operand
  | .nested items, comparison, value => by
    have whole := listForm_iff_of apart (items_formed apart items)
    constructor
    · rintro (_ | ⟨_, operand, form⟩)
      rw [(whole operand).mp form]
      rfl
    · rintro rfl
      exact .nested comparison _ ((whole _).mpr rfl)

theorem items_formed (apart : orKey ∉ fields) : ∀ items : List Item, ∀ item ∈ items,
    ∀ clause ∈ clauses fields item.conditions, Formed fields clause
  | .group combinator conditions :: rest, item, member => by
    rcases List.mem_cons.mp member with rfl | later
    · exact clauses_formed apart conditions
    · exact items_formed apart rest item later

end

/-- A list is compiled to the object that it stands for as data, and to nothing else. -/
theorem listForm_iff (apart : orKey ∉ fields) (items : List Item) (value : Value) :
    ListForm fields items value ↔ value = .object (listData fields items) :=
  listForm_iff_of apart (items_formed apart items) value

end

/-! ## One list after another -/

/-- The alternatives in a compiled list. -/
def alternativesIn (compiled : Entries) : List Value :=
  match compiled.get? orKey with
  | some (.list branches) => branches
  | _ => []

/-- A compiled list with another after it: its fields are given what the other says, at the end if
they are new, and the alternatives of both are joined. -/
def merged (first second : Entries) : Entries :=
  first.putAll (second.map fun entry =>
    (entry.1, if entry.1 = orKey then .list (alternativesIn first ++ alternativesIn second)
      else entry.2))

section
variable {fields : List Text} {first second : List Item} {limits : Limits}

theorem alternativesIn_listData (apart : orKey ∉ fields) (items : List Item) :
    alternativesIn (listData fields items) = alternativeData fields items := by
  rw [alternativesIn, listData, Entries.get?_ofPairs, lastOn_orKey apart]
  by_cases none : alternativeData fields items = []
  · rw [if_pos none, none]
  · rw [if_neg none]

theorem keys_merged (first second : List Item) :
    (merged (listData fields first) (listData fields second)).keys =
      (itemKeys fields (first ++ second)).eraseDups := by
  have kept (entries : Entries) (change : Text × Value → Value) :
      Entries.keys (entries.map fun entry => (entry.1, change entry)) = entries.keys := by
    simp [Entries.keys]
  have gathered := Entries.foldl_addKey_gathered (listData fields first).keys []
    (itemKeys fields second)
  have all : itemKeys fields (first ++ second) = itemKeys fields first ++ itemKeys fields second :=
    List.flatMap_append
  rw [merged, Entries.keys_putAll, kept, keys_listData fields second, ← foldl_addKey_eq,
    gathered, List.foldl_nil, keys_listData, all, ← foldl_addKey_eq, ← foldl_addKey_eq,
    List.foldl_append]

theorem get?_merged (apart : orKey ∉ fields) (first second : List Item) (key : Text) :
    (merged (listData fields first) (listData fields second)).get? key =
      (listData fields (first ++ second)).get? key := by
  let change (key : Text) (value : Value) : Value :=
    if key = orKey then
      .list (alternativesIn (listData fields first) ++ alternativesIn (listData fields second))
    else value
  rw [merged, Entries.get?_putAll, lastOn_map change,
    Entries.lastOn_of_nodup (nodup_listData fields second)]
  simp only [listData, Entries.get?_ofPairs, itemPairs_append, lastOn_append]
  by_cases here : key = orKey
  · subst here
    have joint : change orKey (.list (alternativeData fields second)) =
        .list (alternativeData fields (first ++ second)) := by
      simp only [change, if_true, alternativesIn_listData apart, alternativeData_append]
    simp only [lastOn_orKey apart]
    by_cases none : alternativeData fields second = []
    · rw [if_pos none, alternativeData_append, none, List.append_nil]
      rfl
    · rw [if_neg none, if_neg none, Option.map_some, joint]
      rfl
  · have kept : change key = id := funext fun value => if_neg here
    have same (branches : List Value) (items : List Item) :
        lastOn key (itemPairs fields branches items) =
          lastOn key (itemPairs fields (alternativeData fields (first ++ second)) items) :=
      lastOn_itemPairs branches _ items here
    rw [kept, Option.map_id, id_eq, same _ second, same _ first]

/-- Two lists one after the other are compiled to what both are compiled to, merged. -/
theorem listData_append (apart : orKey ∉ fields) (first second : List Item) :
    listData fields (first ++ second) =
      merged (listData fields first) (listData fields second) := by
  apply Entries.ext_get? (nodup_listData fields _)
  · exact (keys_listData fields _).trans (keys_merged first second).symm
  · exact fun key => (get?_merged apart first second key).symm

theorem itemsTyped_append : ∀ {first second : List Item}, ItemsTyped first → ItemsTyped second →
    ItemsTyped (first ++ second)
  | [], _, _, typed => typed
  | .group _ _ :: _, _, typed, behind => ⟨typed.1, itemsTyped_append typed.2 behind⟩

theorem depthBelow_append (first second : List Item) :
    depthBelow (first ++ second) = max (depthBelow first) (depthBelow second) := by
  induction first with
  | nil => simp [depthBelow]
  | cons item rest ih =>
    obtain ⟨combinator, conditions⟩ := item
    rw [List.cons_append, depthBelow, depthBelow, ih, Nat.max_assoc]

theorem size_append (first second : List Item) :
    size (first ++ second) = size first + size second := by
  induction first with
  | nil => simp [size, conditionCount, sizeBelow]
  | cons item rest ih =>
    obtain ⟨combinator, conditions⟩ := item
    rw [List.cons_append, size_cons, size_cons, ih]
    omega

/-- Of a list within the limits every part is within them. -/
theorem check_append (within : limits.check (first ++ second) = .ok ()) :
    limits.check first = .ok () ∧ limits.check second = .ok () := by
  obtain ⟨levels, conditions⟩ := Limits.check_eq_ok.mp within
  rw [depth, depthBelow_append] at levels
  rw [size_append] at conditions
  constructor <;> apply Limits.check_eq_ok.mpr <;> unfold depth <;> omega

end

/-- A filter that is read and within the limits is compiled to the object of its form, and no other
object has that form. With a filter after it, it is compiled to what both are compiled to,
merged. -/
theorem compileFilter_keyOrder (read : Filter.readFilter payload = .ok items)
    (within : Limits.standard.check items = .ok ()) :
    ∃ compiled, Compiler.standard.compileFilter items = .ok compiled ∧
      (∀ value, ListForm Compiler.surveyFilterFields items value ↔ value = .object compiled) ∧
      ∀ {added more}, Filter.readFilter added = .ok more →
        Limits.standard.check (items ++ more) = .ok () →
        ∃ others, Compiler.standard.compileFilter more = .ok others ∧
          Compiler.standard.compileFilter (items ++ more) = .ok (merged compiled others) := by
  have typed := Filter.itemsTyped_of_readFilter read
  have apart : orKey ∉ Compiler.standard.filterFields := by decide
  refine ⟨_, compileFilter_answers apart rfl within typed, ?_, ?_⟩
  · intro value
    exact listForm_iff apart items value
  · intro added more readMore withinBoth
    have typedMore := Filter.itemsTyped_of_readFilter readMore
    have both := compileFilter_answers apart rfl withinBoth (itemsTyped_append typed typedMore)
    rw [listData_append apart] at both
    exact ⟨_, compileFilter_answers apart rfl (check_append withinBoth).2 typedMore, both⟩

/-- A title that is overwritten behind the first of two alternatives. -/
private def renamed : Value := .list [
  .object [("condition", .list [.object [("field", .str "title"), ("value", .str "a")]])],
  .object [("comparator", .str "$or"), ("condition", .list [
    .object [("field", .str "owner"), ("value", .str "ada")]])],
  .object [("condition", .list [.object [("field", .str "remark"), ("value", .null)],
    .object [("field", .str "title"), ("comparator", .str "$ne"), ("value", .str "b")]])],
  .object [("comparator", .str "$or"), ("condition", .list [])]]

private def renamedItems : List Item := [
  .group .every [.compare (.str "title") .null (.scalar (.str "a"))],
  .group .either [.compare (.str "owner") .null (.scalar (.str "ada"))],
  .group .every [.compare (.str "remark") .null (.scalar .null),
    .compare (.str "title") (.str "$ne") (.scalar (.str "b"))],
  .group .either []]

/-- The title keeps its first place and has its last content; alternatives without a condition that
counts are empty. -/
private def renamedForm : Entries := [
  ("title", Predicate.Operator.notEqual.fragment (.str "b")),
  ("OR", .list [.object [], .object []]), ("remark", .null)]

theorem compileFilter_keyOrder_renamed :
    Filter.readFilter renamed = .ok renamedItems ∧ Limits.standard.check renamedItems = .ok () ∧
    ListForm Compiler.surveyFilterFields renamedItems (.object renamedForm) ∧
    merged renamedForm renamedForm =
      renamedForm.put "OR" (.list [.object [], .object [], .object [], .object []]) ∧
    Compiler.standard.compileFilter (renamedItems ++ renamedItems) =
      .ok (merged renamedForm renamedForm) := by
  have read : Filter.readFilter renamed = .ok renamedItems := rfl
  have within : Limits.standard.check renamedItems = .ok () := rfl
  have answered : Compiler.standard.compileFilter renamedItems = .ok renamedForm := rfl
  have both : Limits.standard.check (renamedItems ++ renamedItems) = .ok () := rfl
  obtain ⟨compiled, found, form, behind⟩ := compileFilter_keyOrder read within
  cases answered.symm.trans found
  obtain ⟨others, again, joint⟩ := behind read both
  cases answered.symm.trans again
  exact ⟨read, within, (form _).mpr rfl, rfl, joint⟩

end SurveyDesk.Query
