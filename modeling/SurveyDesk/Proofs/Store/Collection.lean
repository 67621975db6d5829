import SurveyDesk.Proofs.Value.Entries
import SurveyDesk.Proofs.Value.Keyed
import SurveyDesk.Store.Basic

/-! Documents that were inserted as objects, and the collections that hold them. Writing one
collection leaves every other as it was; what is written under a document's own id is an insertion
at the end or a change in place. -/
namespace SurveyDesk

namespace Document

@[simp] theorem named_ofEntries (entries : Entries) :
    (ofEntries entries).named = .object entries := by
  rw [named, ofEntries, List.filterMap_map]
  exact congrArg Value.object List.filterMap_some

/-- The entry under a text is what is under that text. -/
theorem get?_named (document : Document) (key : Text) :
    document.named.get? key = Keyed.get? (.str key) document := by
  induction document with
  | nil => rfl
  | cons entry rest ih =>
    obtain ⟨other, value⟩ := entry
    simp only [named, Value.get?, List.filterMap_cons, Keyed.get?] at ih ⊢
    cases other with
    | str text => simp [Entries.get?_cons, ih]
    | _ =>
      rw [if_neg fun here => Value.noConfusion (Value.alike_text_iff.mp here), ← ih]

@[simp] theorem nameOf_text (text : Text) : nameOf (.str text) = text := by
  simp [nameOf, Value.asText]

/-- An object that names no key twice is shown as it was inserted. -/
theorem shown_ofEntries {entries : Entries} (distinct : entries.keys.Nodup) :
    (ofEntries entries).shown = .object entries := by
  have same : (ofEntries entries).map (fun row => (nameOf row.1, row.2)) = entries := by
    simp [ofEntries, Function.comp_def]
  simp only [shown, spelled, same, Entries.ofPairs_of_nodup distinct]

theorem put_ofEntries (entries : Entries) (key : Text) (value : Value) :
    Keyed.put (.str key) value (ofEntries entries) = ofEntries (entries.put key value) := by
  induction entries with
  | nil => rfl
  | cons entry rest ih =>
    obtain ⟨other, old⟩ := entry
    simp only [ofEntries, List.map_cons, Keyed.put, Value.text_alike_text, decide_eq_true_eq,
      Entries.put] at ih ⊢
    by_cases same : other = key
    · simp [same]
    · simp [same, ih]

theorem putAll_ofEntries (entries changes : Entries) :
    Keyed.putAll (ofEntries entries) (ofEntries changes) = ofEntries (entries.putAll changes) := by
  induction changes generalizing entries with
  | nil => rfl
  | cons change rest ih =>
    have step := ih (entries.put change.1 change.2)
    rw [← put_ofEntries] at step
    exact step

end Document

namespace Store

private theorem lookup_cons_eq (name other : Text) (content : Collection)
    (rest : List (Text × Collection)) :
    ((name, content) :: rest).lookup other =
      if other = name then some content else rest.lookup other := by
  by_cases same : other = name
  · simp [same]
  · simp [List.lookup_cons, beq_false_of_ne same, same]

private theorem lookup_replaced (name other : Text) (content : Collection)
    (collections : List (Text × Collection)) :
    (replaced name content collections).lookup other =
      if other = name then some content else collections.lookup other := by
  induction collections with
  | nil => exact lookup_cons_eq name other content []
  | cons entry rest ih =>
    obtain ⟨first, old⟩ := entry
    simp only [replaced]
    split
    · rename_i here
      rw [lookup_cons_eq, lookup_cons_eq, here]
      split <;> rfl
    · rename_i different
      rw [lookup_cons_eq, lookup_cons_eq, ih]
      split
      · rename_i here
        rw [if_neg fun same => different (here.symm.trans same)]
      · rfl

theorem collection_withCollection (store : Store) (name other : Text) (content : Collection) :
    (store.withCollection name content).collection other =
      if other = name then content else store.collection other := by
  unfold collection withCollection
  rw [lookup_replaced]
  split <;> rfl

@[simp] theorem collection_withCollection_self (store : Store) (name : Text)
    (content : Collection) : (store.withCollection name content).collection name = content := by
  rw [collection_withCollection, if_pos rfl]

theorem insert_object (store : Store) (name : Text) {entries : Entries} {id : Text}
    (identified : entries.get? idKey = some (.str id)) :
    store.insert name (.object entries) =
      .ok (store.withCollection name
        (Keyed.put (.str id) (Document.ofEntries entries) (store.collection name))) := by
  simp only [insert, idAndEntriesOf, identified, Value.isKey, if_true]
  rfl

/-- A change that is given as an object is laid over the document under the id, if there is one. -/
theorem update_object (store : Store) (name id : Text) (changes : Entries) :
    store.update name (.str id) (.object changes) =
      match Keyed.get? (.str id) (store.collection name) with
      | none => .ok none
      | some document =>
        .ok (some (store.withCollection name (Keyed.put (.str id)
          (Keyed.putAll document (Document.ofEntries changes)) (store.collection name)),
          Document.shown (Keyed.putAll document (Document.ofEntries changes)))) := by
  simp only [update, Value.isKey, Bool.not_true, Bool.false_eq_true, if_false]
  cases Keyed.get? (.str id) (store.collection name) <;> rfl

/-! ## Collections of named items -/

section
variable {α : Type} {key : α → Text} {document : α → Document} {items : List α} {store : Store}
  {name : Text}

/-- Inserting a document under a new id adds its item at the end. -/
theorem insert_byName {entries : Entries} (item : α)
    (held : store.collection name = Keyed.byName key document items)
    (identified : entries.get? idKey = some (.str (key item)))
    (means : document item = .ofEntries entries)
    (absent : ∀ other ∈ items, key other ≠ key item) :
    store.insert name (.object entries) =
      .ok (store.withCollection name (Keyed.byName key document (items ++ [item]))) := by
  rw [insert_object store name identified, held, Keyed.put_byName_of_absent absent, ← means]
  simp only [Keyed.byName, List.map_append, List.map_cons, List.map_nil]

/-- Laying changes over a document changes its item and no other. -/
theorem update_byName {changes : Entries} {item : α} (changed : α)
    (held : store.collection name = Keyed.byName key document items)
    (distinct : (items.map key).Nodup) (member : item ∈ items) (named : key changed = key item)
    (overlaid : Keyed.putAll (document item) (Document.ofEntries changes) = document changed) :
    store.update name (.str (key item)) (.object changes) =
      .ok (some (store.withCollection name (Keyed.byName key document
        (items.map fun other => if key other = key item then changed else other)),
        (document changed).shown)) := by
  rw [update_object, held, Keyed.get?_byName, Keyed.find?_of_mem distinct member]
  simp only [Option.map_some, overlaid, Keyed.put_byName_of_mem distinct member named]

theorem update_byName_of_absent (changes : Entries) {id : Text}
    (held : store.collection name = Keyed.byName key document items)
    (absent : ∀ item ∈ items, key item ≠ id) :
    store.update name (.str id) (.object changes) = .ok none := by
  have missed : items.find? (fun item => key item = id) = none :=
    List.find?_eq_none.mpr fun item member => by simpa using absent item member
  rw [update_object, held, Keyed.get?_byName, missed]
  rfl

end

end Store
end SurveyDesk
