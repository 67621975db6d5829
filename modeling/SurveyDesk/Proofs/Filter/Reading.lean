import Mathlib.Data.List.Forall2
import SurveyDesk.Proofs.Filter.Grammar
import SurveyDesk.Proofs.Filter.Paths
import SurveyDesk.Proofs.Filter.Shown

/-! What is read from a filter. A payload is read exactly if it follows the grammar, and the tree
that is read mirrors it, item by item and condition by condition. Only one tree does, and whatever
else an item or a condition holds makes no difference to it. -/
namespace SurveyDesk.Filter

/-! ## Trees that mirror values -/

mutual

/-- An item mirrors a value if it has the conditions of the value, one for one and in their order,
and is an alternative if and only if the value says so. -/
inductive ItemMirrors : Value → Item → Prop where
  | group {value : Value} {values : List Value} {combinator : Combinator}
    {conditions : List Condition}
    (joined : combinator = .either ↔ value.get? comparatorKey = some (.str "$or"))
    (found : value.get? conditionKey = some (.list values))
    (each : List.Forall₂ ConditionMirrors values conditions) :
    ItemMirrors value (.group combinator conditions)

/-- A condition mirrors a value if it has the field and the comparator of the value and mirrors what
the value compares with. What the value does not have is null. -/
inductive ConditionMirrors : Value → Condition → Prop where
  | compare {value field : Value} {content : Content}
    (named : value.get? fieldKey = some field)
    (compared : ContentMirrors ((value.get? valueKey).getD .null) content) :
    ConditionMirrors value (.compare field ((value.get? comparatorKey).getD .null) content)

/-- What is compared with mirrors a value if it is the value itself, or a list of items has the
items of the value, one for one and in their order. -/
inductive ContentMirrors : Value → Content → Prop where
  | scalar {value : Value} (plain : isScalar value) : ContentMirrors value (.scalar value)
  | nested {values : List Value} {items : List Item}
    (each : List.Forall₂ ItemMirrors values items) :
    ContentMirrors (.list values) (.nested items)

end

/-- Items mirror a value that is a list of as many items if each mirrors the one at its place. -/
def Mirrors (value : Value) (items : List Item) : Prop := ContentMirrors value (.nested items)

theorem mirrors_list {values : List Value} {items : List Item} :
    Mirrors (.list values) items ↔ List.Forall₂ ItemMirrors values items := by
  constructor
  · rintro ⟨⟩
    assumption
  · exact .nested

/-- Reading gives one thing, and nothing else has a property. -/
def ReadsAs (read : Except Fault α) (property : α → Prop) : Prop :=
  ∃ found, read = .ok found ∧ ∀ other, property other ↔ other = found

/-- What is read part by part from a list has a property if each of its parts has it. -/
private theorem readsAs_cons {first : Except Fault α} {rest : Except Fault (List α)}
    {relation : Value → α → Prop} {value : Value} {values : List Value}
    (here : ReadsAs first (relation value))
    (later : ReadsAs rest (List.Forall₂ relation values)) :
    ReadsAs (do return (← first) :: (← rest)) (List.Forall₂ relation (value :: values)) := by
  obtain ⟨found, readHere, only⟩ := here
  obtain ⟨others, readLater, onlyOthers⟩ := later
  refine ⟨found :: others, ?_, fun other => ?_⟩
  · rw [readHere, readLater]
    rfl
  · rw [List.forall₂_cons_left_iff]
    constructor
    · rintro ⟨one, more, mirrors, each, rfl⟩
      rw [(only one).mp mirrors, (onlyOthers more).mp each]
    · rintro rfl
      exact ⟨found, others, (only found).mpr rfl, (onlyOthers others).mpr rfl, rfl⟩

private theorem readsAs_nil {relation : Value → α → Prop} :
    ReadsAs (.ok []) (List.Forall₂ relation []) :=
  ⟨[], rfl, fun _ => List.forall₂_nil_left_iff⟩

/-- The combinator that is read from a mark is the only one that mirrors it. -/
private theorem ofMark_eq_iff (mark : Option Value) (combinator : Combinator) :
    (combinator = .either ↔ mark = some (.str "$or")) ↔ combinator = .ofMark mark := by
  have either : Combinator.ofMark mark = .either ↔ mark = some (.str "$or") := by
    unfold Combinator.ofMark
    split
    · rename_i text
      by_cases same : text = "$or" <;> simp [orMark, same]
    · rename_i others
      simpa using others "$or"
  rw [← either]
  cases combinator <;> cases Combinator.ofMark mark <;> simp

mutual

/-- Values that are items are read as the only items that mirror them. -/
theorem itemList_mirrors : ∀ values : List Value, (∀ value ∈ values, IsItem value) →
    ReadsAs (itemList values) (List.Forall₂ ItemMirrors values)
  | [], _ => readsAs_nil
  | value :: rest, each => by
    obtain ⟨here, later⟩ := List.forall_mem_cons.mp each
    exact readsAs_cons (item_mirrors value here) (itemList_mirrors rest later)

theorem item_mirrors : ∀ value : Value, IsItem value →
    ReadsAs (Item.ofValue value) (ItemMirrors value)
  | .object entries, .object _ found (.list each) => by
    obtain ⟨conditions, read, only⟩ := conditionsIn_mirrors entries _ found each
    refine ⟨_, by rw [Item.ofValue, read]; rfl, fun other => ⟨?_, ?_⟩⟩
    · rintro ⟨joined, again, mirrors⟩
      cases found.symm.trans again
      rw [(ofMark_eq_iff _ _).mp joined, (only _).mp mirrors]
      rfl
    · rintro rfl
      exact .group ((ofMark_eq_iff _ _).mpr rfl) found ((only _).mpr rfl)

theorem conditionsIn_mirrors : ∀ (entries : List (Text × Value)) (values : List Value),
    Entries.get? entries conditionKey = some (.list values) →
      (∀ value ∈ values, IsCondition value) →
      ReadsAs (conditionsIn entries) (List.Forall₂ ConditionMirrors values)
  | (key, value) :: rest, values, found, each => by
    rw [conditionsIn]
    rw [Entries.get?_cons] at found
    split
    · rename_i here
      rw [if_pos here] at found
      exact conditionsOf_mirrors value values (Option.some.inj found) each
    · rename_i elsewhere
      rw [if_neg elsewhere] at found
      exact conditionsIn_mirrors rest values found each

theorem conditionsOf_mirrors : ∀ (value : Value) (values : List Value), value = .list values →
    (∀ value ∈ values, IsCondition value) →
      ReadsAs (conditionsOf value) (List.Forall₂ ConditionMirrors values)
  | .list others, values, same, each => by
    cases same
    exact conditionList_mirrors others each

theorem conditionList_mirrors : ∀ values : List Value, (∀ value ∈ values, IsCondition value) →
    ReadsAs (conditionList values) (List.Forall₂ ConditionMirrors values)
  | [], _ => readsAs_nil
  | value :: rest, each => by
    obtain ⟨here, later⟩ := List.forall_mem_cons.mp each
    exact readsAs_cons (condition_mirrors value here) (conditionList_mirrors rest later)

theorem condition_mirrors : ∀ value : Value, IsCondition value →
    ReadsAs (Condition.ofValue value) (ConditionMirrors value)
  | .object entries, .object named _ content => by
    obtain ⟨compared, read, only⟩ := contentIn_mirrors entries content
    refine ⟨_, by rw [Condition.ofValue, read, ok_bind, named]; rfl, fun other => ⟨?_, ?_⟩⟩
    · rintro ⟨again, mirrors⟩
      cases named.symm.trans again
      rw [(only _).mp mirrors]
      rfl
    · rintro rfl
      exact .compare named ((only _).mpr rfl)

theorem contentIn_mirrors : ∀ entries : List (Text × Value),
    (∀ value, Entries.get? entries valueKey = some value → IsContent value) →
      ReadsAs (contentIn entries) (ContentMirrors ((Entries.get? entries valueKey).getD .null))
  | [], _ => by
    refine ⟨.scalar .null, rfl, fun other => ⟨?_, ?_⟩⟩
    · rintro ⟨⟩
      rfl
    · rintro rfl
      exact .scalar rfl
  | (key, value) :: rest, content => by
    rw [contentIn]
    rw [Entries.get?_cons] at content ⊢
    split
    · rename_i here
      rw [if_pos here] at content
      exact content_mirrors value (content value rfl)
    · rename_i elsewhere
      rw [if_neg elsewhere] at content
      exact contentIn_mirrors rest content

theorem content_mirrors : ∀ value : Value, IsContent value →
    ReadsAs (Content.ofValue value) (ContentMirrors value)
  | .list values, .items (.list each) => by
    obtain ⟨items, read, only⟩ := itemList_mirrors values each
    refine ⟨.nested items, by rw [Content.ofValue, read]; rfl, fun other => ⟨?_, ?_⟩⟩
    · rintro (⟨plain⟩ | ⟨mirrors⟩)
      · cases plain
      · rw [(only _).mp mirrors]
    · rintro rfl
      exact .nested ((only _).mpr rfl)
  | .null, _ | .bool _, _ | .int _, _ | .float _, _ | .str _, _ => by
    refine ⟨_, rfl, fun other => ⟨?_, ?_⟩⟩
    · rintro ⟨⟩
      rfl
    · rintro rfl
      exact .scalar rfl

end

/-- A list of items is read as the only items that mirror it. -/
theorem itemsOf_mirrors {value : Value} (grammar : IsItems value) :
    ReadsAs (itemsOf value) (Mirrors value) := by
  obtain ⟨each⟩ := grammar
  obtain ⟨items, read, only⟩ := itemList_mirrors _ each
  exact ⟨items, read, fun other => mirrors_list.trans (only other)⟩

/-! ## What makes no difference -/

mutual

/-- Values that are the same as items: they have the same comparator, and conditions that are the
same one for one, whatever else they hold. -/
inductive SameItem : Value → Value → Prop where
  | of {first second : Value} {values others : List Value}
    (comparators : first.get? comparatorKey = second.get? comparatorKey)
    (found : first.get? conditionKey = some (.list values))
    (foundOther : second.get? conditionKey = some (.list others))
    (each : List.Forall₂ SameCondition values others) : SameItem first second

/-- Values that are the same as conditions: they have the same field and the same comparator, and
compare with the same, whatever else they hold. -/
inductive SameCondition : Value → Value → Prop where
  | of {first second : Value} (fields : first.get? fieldKey = second.get? fieldKey)
    (comparators : first.get? comparatorKey = second.get? comparatorKey)
    (compared : Option.Rel SameContent (first.get? valueKey) (second.get? valueKey)) :
    SameCondition first second

/-- What is the same where it is compared with: one value, or lists of the same items. -/
inductive SameContent : Value → Value → Prop where
  | scalar {value : Value} (plain : isScalar value) : SameContent value value
  | items {values others : List Value} (each : List.Forall₂ SameItem values others) :
    SameContent (.list values) (.list others)

end

private theorem object_of_get? {value found : Value} (held : value.get? key = some found) :
    ∃ entries, value = .object entries := by
  cases value with
  | object entries => exact ⟨entries, rfl⟩
  | _ => cases held

mutual

/-- What is the same as items of the grammar follows it too, and is mirrored by the same items. -/
theorem items_same : ∀ {items : List Item} {values others : List Value},
    (∀ value ∈ values, IsItem value) → List.Forall₂ ItemMirrors values items →
      List.Forall₂ SameItem values others →
      (∀ value ∈ others, IsItem value) ∧ List.Forall₂ ItemMirrors others items
  | [], _, _, _, .nil, .nil => ⟨nofun, .nil⟩
  | item :: rest, _, _, each, .cons mirrors more, .cons same others => by
    obtain ⟨here, later⟩ := List.forall_mem_cons.mp each
    obtain ⟨follows, mirrored⟩ := item_same here mirrors same
    obtain ⟨followAll, mirroredAll⟩ := items_same later more others
    exact ⟨List.forall_mem_cons.mpr ⟨follows, followAll⟩, .cons mirrored mirroredAll⟩

theorem item_same : ∀ {item : Item} {value other : Value}, IsItem value → ItemMirrors value item →
    SameItem value other → IsItem other ∧ ItemMirrors other item
  | .group combinator conditions, _, other, .object comparator found (.list each),
    .group joined again mirrors, .of comparators here there same => by
    cases found.symm.trans here
    cases found.symm.trans again
    obtain ⟨follow, mirrored⟩ := conditions_same each mirrors same
    obtain ⟨entries, rfl⟩ := object_of_get? there
    refine ⟨.object (fun mark held => comparator mark (comparators.trans held)) there
      (.list follow), .group ?_ there mirrored⟩
    rw [← comparators]
    exact joined

theorem conditions_same : ∀ {conditions : List Condition} {values others : List Value},
    (∀ value ∈ values, IsCondition value) → List.Forall₂ ConditionMirrors values conditions →
      List.Forall₂ SameCondition values others →
      (∀ value ∈ others, IsCondition value) ∧ List.Forall₂ ConditionMirrors others conditions
  | [], _, _, _, .nil, .nil => ⟨nofun, .nil⟩
  | condition :: rest, _, _, each, .cons mirrors more, .cons same others => by
    obtain ⟨here, later⟩ := List.forall_mem_cons.mp each
    obtain ⟨follows, mirrored⟩ := condition_same here mirrors same
    obtain ⟨followAll, mirroredAll⟩ := conditions_same later more others
    exact ⟨List.forall_mem_cons.mpr ⟨follows, followAll⟩, .cons mirrored mirroredAll⟩

theorem condition_same : ∀ {condition : Condition} {value other : Value}, IsCondition value →
    ConditionMirrors value condition → SameCondition value other →
      IsCondition other ∧ ConditionMirrors other condition
  | .compare field _ content, .object entries, other, .object named comparator follows,
    .compare again mirrors, .of fields comparators same => by
    have there : other.get? fieldKey = some (.str _) := fields.symm.trans named
    obtain ⟨others, rfl⟩ := object_of_get? there
    have compared : (∀ value, (Value.object others).get? valueKey = some value → IsContent value) ∧
        ContentMirrors (((Value.object others).get? valueKey).getD .null) content := by
      cases held : (Value.object others).get? valueKey with
      | none =>
        rw [held] at same
        cases missing : (Value.object entries).get? valueKey with
        | some value =>
          rw [missing] at same
          cases same
        | none =>
          rw [missing] at mirrors
          exact ⟨nofun, mirrors⟩
      | some value =>
        rw [held] at same
        cases known : (Value.object entries).get? valueKey with
        | none =>
          rw [known] at same
          cases same
        | some earlier =>
          rw [known] at same mirrors
          obtain ⟨same⟩ := same
          obtain ⟨follow, mirrored⟩ := content_same (follows earlier known) mirrors same
          exact ⟨fun one here => Option.some.inj here ▸ follow, mirrored⟩
    refine ⟨.object there (fun mark held => comparator mark (comparators.trans held)) compared.1,
      ?_⟩
    rw [comparators]
    exact .compare (fields.symm.trans again) compared.2

theorem content_same : ∀ {content : Content} {value other : Value}, IsContent value →
    ContentMirrors value content → SameContent value other →
      IsContent other ∧ ContentMirrors other content
  | .scalar _, _, _, follows, mirrors, .scalar _ => ⟨follows, mirrors⟩
  | .nested _, _, _, follows, .nested mirrors, .items same => by
    cases follows with
    | scalar plain => cases plain
    | items follows =>
      obtain ⟨each⟩ := follows
      obtain ⟨follow, mirrored⟩ := items_same each mirrors same
      exact ⟨.items (.list follow), .nested mirrored⟩

end

/-! ## Items inside one another -/

/-- Items inside one another, so many levels above an innermost item. -/
def nestedItem (innermost : Value) : Nat → Value
  | 0 => innermost
  | above + 1 => .object [("condition", .list [.object [("field", .str "title"),
      ("value", .list [nestedItem innermost above])]])]

section
variable {innermost : Value}

theorem isItem_nestedItem (item : IsItem innermost) (above : Nat) :
    IsItem (nestedItem innermost above) := by
  induction above with
  | zero => exact item
  | succ above ih =>
    have content : IsContent (.list [nestedItem innermost above]) :=
      .items (.list (List.forall_mem_singleton.mpr ih))
    have condition : IsCondition (.object [("field", .str "title"),
        ("value", .list [nestedItem innermost above])]) := by
      refine .object rfl ?_ fun value held => Option.some.inj held ▸ content
      intro mark held
      cases held
    refine .object ?_ rfl (.list (List.forall_mem_singleton.mpr condition))
    intro mark held
    cases held

theorem levelsIn_nestedItem (innermost : Value) (above : Nat) :
    levelsIn (nestedItem innermost above) = above + levelsIn innermost := by
  induction above with
  | zero => exact (Nat.zero_add _).symm
  | succ above ih =>
    have onward : levelsIn (nestedItem innermost (above + 1)) =
        max (max (levelsIn (nestedItem innermost above)) 1 + 1) 1 := rfl
    have some : 1 ≤ levelsIn innermost := levelsIn_pos innermost
    rw [onward, ih]
    omega

/-- The list with the innermost item is shown at the level above it. -/
theorem shown_nestedItem (innermost : Value) (above level : Nat) :
    (level + above, Value.list [innermost]) ∈
      itemShown level (nestedItem innermost (above + 1)) := by
  have inside (above level : Nat) : itemShown level (nestedItem innermost (above + 1)) =
      (level, .list [nestedItem innermost above]) ::
        (itemShown (level + 1) (nestedItem innermost above) ++ []) ++ [] := rfl
  induction above generalizing level with
  | zero =>
    rw [inside]
    exact List.mem_cons_self
  | succ above ih =>
    have member := ih (level + 1)
    rw [Nat.add_right_comm, Nat.add_assoc] at member
    rw [inside, List.append_nil, List.append_nil]
    exact .tail _ member

end

/-! ## Payloads -/

/-- Whether a rejection tells what is wrong with the form of a payload. -/
def Rejection.isOfForm : Rejection → Bool
  | .unreadable _ => false
  | _ => true

theorem least?_violations {value : Value} :
    Violation.least? (violations value) = none ↔ IsItems value := by
  rw [← violations_eq_nil]
  constructor
  · exact least?_eq_none
  · intro clean
    rw [clean]
    rfl

/-- A payload is decoded first; then it is checked, and a check that does not end says nothing of
its shape. -/
theorem readFilter_of_value {payload value : Value} (decoded : payloadValue payload = .ok value) :
    readFilter payload =
      if levelLimit < levels value ∨ overlong value then .error .tooDeep
      else match Violation.least? (violations value) with
        | some violation => .error (.misshapen violation)
        | none => orUnreadable (itemsOf value) := by
  rw [readFilter, decoded, ok_bind, checkFilter]
  split
  · rfl
  · rw [firstViolation_of_found fun _ => violations_found]
    cases Violation.least? (violations value) <;> rfl

/-- A value that follows the grammar and is checked to the end is read as what mirrors it. -/
theorem readFilter_of_items {payload value : Value} (decoded : payloadValue payload = .ok value)
    (levels : levels value ≤ levelLimit) (ends : overlong value = false)
    (grammar : IsItems value) :
    ∃ items, readFilter payload = .ok items ∧ ∀ others, Mirrors value others ↔ others = items := by
  obtain ⟨items, read, only⟩ := itemsOf_mirrors grammar
  have checked : ¬ (levelLimit < Filter.levels value ∨ overlong value = true) := by
    rw [ends]
    exact not_or.mpr ⟨Nat.not_lt.mpr levels, nofun⟩
  refine ⟨items, ?_, only⟩
  rw [readFilter_of_value decoded, if_neg checked, least?_violations.mpr grammar, read]
  rfl

/-- What is refused is refused for its form. -/
theorem readFilter_refusal {payload : Value} {rejection : Rejection}
    (refused : readFilter payload = .error rejection) : rejection.isOfForm = true := by
  cases decoded : payloadValue payload with
  | error cause =>
    rw [readFilter, decoded, error_bind] at refused
    cases refused
    unfold payloadValue at decoded
    repeat' split at decoded
    all_goals cases decoded <;> rfl
  | ok value =>
    by_cases deep : levelLimit < levels value ∨ overlong value = true
    · rw [readFilter_of_value decoded, if_pos deep] at refused
      cases refused
      rfl
    · cases least : Violation.least? (violations value) with
      | some violation =>
        rw [readFilter_of_value decoded, if_neg deep, least] at refused
        cases refused
        rfl
      | none =>
        obtain ⟨few, ends⟩ := not_or.mp deep
        obtain ⟨items, read, -⟩ := readFilter_of_items decoded (Nat.not_lt.mp few)
          (Bool.not_eq_true _ ▸ ends) (least?_violations.mp least)
        cases read.symm.trans refused

/-- Whatever is sent as a filter is read, or refused for its form. A filter of at most thirty levels
is refused for its depth if checking it takes to write out what is nested too deeply, which it does
not if the whole is not nested deeply. Otherwise it is read exactly if it follows the grammar; what
is read is then the one tree that mirrors it, and is the same for whatever has the same items and
conditions and is checked to the end. -/
theorem filters_are_read_by_their_grammar (payload : Value) :
    ((∃ items, readFilter payload = .ok items) ∨
      ∃ rejection, readFilter payload = .error rejection ∧ rejection.isOfForm = true) ∧
    ∀ value, payloadValue payload = .ok value → levels value ≤ 30 →
      (overlong value = true → readFilter payload = .error .tooDeep) ∧
      (Json.nesting value ≤ 560 → overlong value = false) ∧
      (overlong value = false →
        ((∃ items, readFilter payload = .ok items) ↔ IsItems value) ∧
        ∀ items, readFilter payload = .ok items →
          (∀ others, Mirrors value others ↔ others = items) ∧
          ∀ other, SameContent value other → levels other ≤ 30 → overlong other = false →
            readFilter other = .ok items) := by
  have within {value : Value} (few : levels value ≤ 30) : levels value ≤ levelLimit :=
    Nat.le_trans few (by decide)
  have follows {payload value : Value} {items : List Item}
      (decoded : payloadValue payload = .ok value) (read : readFilter payload = .ok items) :
      IsItems value := by
    rw [readFilter_of_value decoded] at read
    split at read
    · cases read
    · cases least : Violation.least? (violations value) with
      | none => exact least?_violations.mp least
      | some violation =>
        rw [least] at read
        cases read
  refine ⟨?_, fun value decoded few => ⟨fun long => ?_, not_overlong_of_shallow few,
    fun ends => ⟨⟨?_, fun grammar => ?_⟩, fun items read => ?_⟩⟩⟩
  · cases read : readFilter payload with
    | ok items => exact .inl ⟨items, rfl⟩
    | error rejection => exact .inr ⟨rejection, rfl, readFilter_refusal read⟩
  · rw [readFilter_of_value decoded, if_pos (.inr long)]
  · rintro ⟨items, read⟩
    exact follows decoded read
  · obtain ⟨items, read, -⟩ := readFilter_of_items decoded (within few) ends grammar
    exact ⟨items, read⟩
  · have grammar := follows decoded read
    obtain ⟨found, again, only⟩ := readFilter_of_items decoded (within few) ends grammar
    cases again.symm.trans read
    refine ⟨only, fun other same few ends => ?_⟩
    obtain ⟨follow, mirrored⟩ := content_same (.items grammar) ((only items).mpr rfl) same
    obtain ⟨others, rfl⟩ : ∃ others, other = .list others := by
      cases same with
      | scalar plain => cases grammar; cases plain
      | items => exact ⟨_, rfl⟩
    have listed : IsItems (.list others) := by
      cases follow with
      | scalar plain => cases plain
      | items listed => exact listed
    have itself : payloadValue (.list others) = .ok (.list others) := rfl
    obtain ⟨those, readThose, onlyThose⟩ := readFilter_of_items itself (within few) ends listed
    rw [readThose, (onlyThose items).mp mirrored]

/-- An alternative as it is sent, with a note that says nothing. -/
private def sentNoted : Value := .str ("[%7B\"comparator\":\"$or\",\"note\":1," ++
  "\"condition\":[\x7b\"field\":\"title\",\"value\":[]\x7d]\x7d]")

private def titleCondition : Value := .object [("field", .str "title"), ("value", .list [])]

private def notedValue : Value := .list [.object [("comparator", .str "$or"), ("note", .int 1),
  ("condition", .list [titleCondition])]]

/-- The same alternative without the note. -/
private def plainValue : Value :=
  .list [.object [("condition", .list [titleCondition]), ("comparator", .str "$or")]]

private def notedItems : List Item :=
  [.group .either [.compare (.str "title") .null (.nested [])]]

private theorem same_noted : SameContent notedValue plainValue := by
  have nothing : SameContent (.list []) (.list []) := .items .nil
  exact .items (.cons (.of rfl rfl rfl (.cons (.of rfl rfl (.some nothing)) .nil)) .nil)

/-- A note that says nothing, in so many lists. -/
private def listedNote : Nat → Value
  | 0 => .str "note"
  | lists + 1 => .list [listedNote lists]

private theorem nesting_listedNote (lists : Nat) : Json.nesting (listedNote lists) = lists := by
  induction lists with
  | zero => rfl
  | succ lists ih =>
    have onward : Json.nesting (listedNote (lists + 1)) =
        max (Json.nesting (listedNote lists)) 0 + 1 := rfl
    rw [onward, ih]
    omega

/-- An item without conditions, with a note in so many lists. -/
private def annotated (lists : Nat) : Value :=
  .object [("condition", .list []), ("note", listedNote lists)]

private theorem isItem_annotated (lists : Nat) : IsItem (annotated lists) := by
  refine .object ?_ rfl (.list (List.forall_mem_nil _))
  intro mark held
  cases held

/-- Thirty levels of items, with a note in the innermost. -/
private def deeplyAnnotated : Value := .list [nestedItem (annotated 700) 29]

private theorem levels_deeplyAnnotated : levels deeplyAnnotated = 30 := by
  have inside : levels deeplyAnnotated = max (levelsIn (nestedItem (annotated 700) 29)) 1 := rfl
  rw [inside, levelsIn_nestedItem]
  rfl

private theorem overlong_deeplyAnnotated : overlong deeplyAnnotated = true := by
  have member : (0 + 28, Value.list [annotated 700]) ∈ shown deeplyAnnotated :=
    List.mem_append_left _ (shown_nestedItem _ 28 0)
  have depth : Json.nesting (.list [annotated 700]) =
      max (max 1 (max (Json.nesting (listedNote 700)) 0) + 1) 0 + 1 := rfl
  rw [nesting_listedNote] at depth
  refine List.any_eq_true.mpr ⟨_, member, decide_eq_true ?_⟩
  rw [depth]
  decide

private theorem payloadValue_deeplyAnnotated :
    payloadValue deeplyAnnotated = .ok deeplyAnnotated := by
  rw [deeplyAnnotated, payloadValue]
  exact nofun

/-- A filter of thirty levels follows the grammar, and is refused for a note that should have
no influence. -/
theorem annotated_filter_is_refused :
    payloadValue deeplyAnnotated = .ok deeplyAnnotated ∧ levels deeplyAnnotated = 30 ∧
      IsItems deeplyAnnotated ∧ readFilter deeplyAnnotated = .error .tooDeep := by
  have decoded := payloadValue_deeplyAnnotated
  have grammar : IsItems deeplyAnnotated :=
    .list (List.forall_mem_singleton.mpr (isItem_nestedItem (isItem_annotated 700) 29))
  refine ⟨decoded, levels_deeplyAnnotated, grammar, ?_⟩
  rw [readFilter_of_value decoded, if_pos (.inr overlong_deeplyAnnotated)]

theorem filters_are_read_by_their_grammar_noted :
    (payloadValue sentNoted = .ok notedValue ∧ levels notedValue ≤ 30 ∧
      overlong notedValue = false ∧ IsItems notedValue ∧ readFilter sentNoted = .ok notedItems ∧
      Mirrors notedValue notedItems ∧ readFilter plainValue = .ok notedItems) ∧
    readFilter deeplyAnnotated = .error .tooDeep := by
  have decoded : payloadValue sentNoted = .ok notedValue := by rfl
  have few : levels notedValue ≤ 30 := by decide
  have read : readFilter sentNoted = .ok notedItems := by
    rw [readFilter_of_value decoded]
    rfl
  obtain ⟨-, shallow, answers⟩ :=
    (filters_are_read_by_their_grammar sentNoted).2 notedValue decoded few
  have ends := shallow (by decide)
  obtain ⟨grammar, answers⟩ := answers ends
  obtain ⟨only, same⟩ := answers notedItems read
  obtain ⟨long, -⟩ := (filters_are_read_by_their_grammar deeplyAnnotated).2 deeplyAnnotated
    payloadValue_deeplyAnnotated (Nat.le_of_eq levels_deeplyAnnotated)
  exact ⟨⟨decoded, few, ends, grammar.mp ⟨_, read⟩, read, (only _).mpr rfl,
    same plainValue same_noted (by decide) rfl⟩, long overlong_deeplyAnnotated⟩

end SurveyDesk.Filter
