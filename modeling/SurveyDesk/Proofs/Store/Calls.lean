import Mathlib.Data.List.DropRight
import SurveyDesk.Proofs.Store.Find

/-! Calls of a store, one after another, as a caller makes them: a call that fails answers its
fault, and the calls after it go on from the store as it was. What a call does to a collection is
said once, by `Call.Does`; whatever is kept along calls is then a matter of its four cases. -/
namespace SurveyDesk.Store

/-- A call of a store. -/
inductive Call where
  | insert (name : Text) (document : Value)
  | update (name : Text) (id changes : Value)
  | findOne (name : Text) (predicate : Value)
  | find (name : Text) (predicate : Value) (sort : SortSpec) (number size : Int)
      (scope : Option Value)
  | clear

/-- What a call answers if it does not fail. -/
inductive Answer where
  | inserted (document : Value)
  | found (document : Option Value)
  | page (page : Page)
  | cleared

namespace Call

/-- What a call answers, and the store after it. -/
def perform (store : Store) : Call → Except Fault Answer × Store
  | .insert name document =>
    match store.insert name document with
    | .ok changed => (.ok (.inserted document), changed)
    | .error fault => (.error fault, store)
  | .update name id changes =>
    match store.update name id changes with
    | .ok (some (changed, document)) => (.ok (.found (some document)), changed)
    | .ok none => (.ok (.found none), store)
    | .error fault => (.error fault, store)
  | .findOne name predicate => ((store.findOne name predicate).map .found, store)
  | .find name predicate sort number size scope =>
    ((store.find name predicate sort number size scope).map .page, store)
  | .clear => (.ok .cleared, store.clear)

/-- What a call answers. -/
def answer (store : Store) (call : Call) : Except Fault Answer := (call.perform store).1

/-- The store after a call. -/
def after (store : Store) (call : Call) : Store := (call.perform store).2

/-- The store after calls that start with no document at all. -/
def run (calls : List Call) : Store := calls.foldl after empty

/-- Whether the ids that a call names are texts. -/
def NamesByText : Call → Prop
  | .insert _ document => ∀ id, document.get? idKey = some id → ∃ text, id = .str text
  | .update _ id _ => ∃ text, id = .str text
  | _ => True

/-- Whether a call drops all collections. -/
def clears : Call → Bool
  | .clear => true
  | _ => false

/-- The document that a call inserts into a collection, with its id. -/
def inserted? (name : Text) : Call → Option (Text × Document)
  | .insert other (.object entries) =>
    match Entries.get? entries idKey with
    | some (.str id) => if other = name then some (id, .ofEntries entries) else none
    | _ => none
  | _ => none

/-- What a call lays over the document under an id, if there is one. -/
def changes (name id : Text) : Call → Document
  | .update other (.str text) changes =>
    if other = name ∧ text = id then (Document.ofChanges changes).toOption.getD [] else []
  | _ => []

/-- The collection that a call writes to. -/
def written? : Call → Option Text
  | .insert name _ | .update name _ _ => some name
  | _ => none

/-- The id under which a call writes. -/
def writtenId? : Call → Option Value
  | .insert _ document => document.get? idKey
  | .update _ id _ => some id
  | _ => none

/-- What a call does to a collection. -/
inductive Does (call : Call) (name : Text) (content : Collection) : Collection → Prop
  | inserted {id : Text} (inserts : call.inserted? name = some (id, document)) :
      Does call name content (Keyed.put (.str id) document content)
  | updated {id : Text} {wanted : Value} (updates : call = .update name (.str id) wanted)
      (legal : Document.ofChanges wanted = .ok overlay)
      (held : Keyed.get? (.str id) content = some document) :
      Does call name content (Keyed.put (.str id) (Keyed.putAll document overlay) content)
  | dropped (clears : call = .clear) : Does call name content []
  | kept (stays : call.clears = false) (fresh : call.inserted? name = none)
      (idle : ∀ id, (Keyed.get? (.str id) content).isSome → call.changes name id = []) :
      Does call name content content

end Call

variable {store : Store} {call : Call} {calls : List Call} {name id : Text}

/-- A change under a text is laid over the document that is there, unless it is no change at all. -/
theorem update_text (store : Store) (name id : Text) (changes : Value) :
    store.update name (.str id) changes =
      match Keyed.get? (.str id) (store.collection name), Document.ofChanges changes with
      | none, _ => .ok none
      | some _, .error fault => .error fault
      | some document, .ok overlay =>
        .ok (some (store.withCollection name
          (Keyed.put (.str id) (Keyed.putAll document overlay) (store.collection name)),
          Document.shown (Keyed.putAll document overlay))) := by
  simp only [update, Value.isKey, Bool.not_true, Bool.false_eq_true, if_false]
  cases Keyed.get? (.str id) (store.collection name) with
  | none => rfl
  | some document => cases Document.ofChanges changes <;> rfl

/-- Without an entry for its id an insertion fails, and with a text there it does not. -/
theorem insert_names (store : Store) (name : Text) {document : Value}
    (names : ∀ id, document.get? idKey = some id → ∃ text, id = .str text) :
    (∃ entries id, document = .object entries ∧ Entries.get? entries idKey = some (.str id)) ∨
      document.get? idKey = none ∧ ∃ fault, store.insert name document = .error fault := by
  cases document with
  | object entries =>
    cases found : Entries.get? entries idKey with
    | none => exact .inr ⟨found, .documentWithoutId, by simp [insert, idAndEntriesOf, found]⟩
    | some id =>
      obtain ⟨text, rfl⟩ := names id found
      exact .inl ⟨entries, text, rfl, found⟩
  | _ => exact .inr ⟨rfl, _, rfl⟩

theorem Call.does (names : call.NamesByText) (store : Store) (name : Text) :
    call.Does name (store.collection name) ((call.after store).collection name) := by
  cases call with
  | insert other document =>
    rcases insert_names store other names with
      ⟨entries, id, rfl, identified⟩ | ⟨unidentified, fault, failed⟩
    · simp only [after, perform, insert_object store other identified, collection_withCollection]
      split
      · rename_i here
        subst here
        exact .inserted (by simp [inserted?, identified])
      · rename_i different
        exact .kept rfl (by simp [inserted?, identified, Ne.symm different]) fun _ _ => rfl
    · have absent : (Call.insert other document).inserted? name = none := by
        cases document with
        | object entries =>
          have missing : Entries.get? entries idKey = none := unidentified
          simp [inserted?, missing]
        | _ => rfl
      simp only [after, perform, failed]
      exact .kept rfl absent fun _ _ => rfl
  | update other id changes =>
    obtain ⟨text, rfl⟩ := names
    simp only [after, perform, update_text]
    cases held : Keyed.get? (.str text) (store.collection other) with
    | none =>
      refine .kept rfl rfl fun id present => if_neg ?_
      rintro ⟨rfl, rfl⟩
      rw [held] at present
      cases present
    | some document =>
      cases legal : Document.ofChanges changes with
      | error fault =>
        exact .kept rfl rfl fun id _ => by simp [Call.changes, legal, Except.toOption]
      | ok overlay =>
        simp only [collection_withCollection]
        split
        · rename_i here
          subst here
          exact .updated rfl legal held
        · rename_i different
          exact .kept rfl rfl fun id _ => if_neg fun same => different same.1.symm
  | findOne | find => exact .kept rfl rfl fun _ _ => rfl
  | clear => exact .dropped rfl

theorem Call.eq_clear (clears : call.clears = true) : call = .clear := by
  cases call with
  | clear => rfl
  | _ => cases clears

theorem Call.of_inserted? {document : Document}
    (inserts : call.inserted? name = some (id, document)) :
    ∃ entries, call = .insert name (.object entries) ∧
      Entries.get? entries idKey = some (.str id) ∧ document = .ofEntries entries := by
  unfold inserted? at inserts
  split at inserts
  · rename_i other entries
    split at inserts
    · rename_i text found
      split at inserts
      · rename_i here
        cases inserts
        exact ⟨entries, here ▸ rfl, found, rfl⟩
      · cases inserts
    · cases inserts
  · cases inserts

theorem Call.stays_of_inserted? {document : Document}
    (inserts : call.inserted? name = some (id, document)) : call.clears = false := by
  obtain ⟨entries, rfl, -⟩ := of_inserted? inserts
  rfl

/-- A call that is not a clearing changes no collection but the one that it writes to. -/
theorem Call.collection_after (names : call.NamesByText) (stays : call.clears = false)
    (elsewhere : call.written? ≠ some name) :
    (call.after store).collection name = store.collection name := by
  have does := call.does names store name
  generalize (call.after store).collection name = left at does ⊢
  cases does with
  | inserted inserts =>
    obtain ⟨entries, rfl, -⟩ := of_inserted? inserts
    exact absurd rfl elsewhere
  | updated updates =>
    subst updates
    exact absurd rfl elsewhere
  | dropped clears =>
    subst clears
    cases stays
  | kept => rfl

/-- A call that is not a clearing changes no document but the one under whose id it writes. -/
theorem Call.get?_after (names : call.NamesByText) (stays : call.clears = false)
    (elsewhere : call.writtenId? ≠ some (.str id)) :
    Keyed.get? (.str id) ((call.after store).collection name) =
      Keyed.get? (.str id) (store.collection name) := by
  have does := call.does names store name
  generalize (call.after store).collection name = left at does ⊢
  cases does with
  | @inserted document other inserts =>
    obtain ⟨entries, rfl, identified, -⟩ := of_inserted? inserts
    have apart : other ≠ id := fun same => elsewhere (same ▸ identified)
    simp [Keyed.get?_put_text, apart]
  | @updated overlay document other wanted updates =>
    subst updates
    have apart : other ≠ id := fun same => elsewhere (same ▸ rfl)
    simp [Keyed.get?_put_text, apart]
  | dropped clears =>
    subst clears
    cases stays
  | kept => rfl

/-- A call that fails leaves the store as it was. -/
theorem Call.after_of_failed (failed : call.answer store = .error fault) :
    call.after store = store := by
  unfold answer perform at failed
  unfold after perform
  cases call with
  | insert name document =>
    cases inserted : store.insert name document with
    | ok changed => simp [inserted] at failed
    | error => simp only [inserted]
  | update name id changes =>
    cases updated : store.update name id changes with
    | ok outcome => cases outcome <;> simp [updated] at failed
    | error => simp only [updated]
  | findOne | find => rfl
  | clear => cases failed

/-- A change that answers no document leaves the store as it was. -/
theorem Call.after_of_missed {id changes : Value}
    (missed : (Call.update name id changes).answer store = .ok (.found none)) :
    (Call.update name id changes).after store = store := by
  unfold answer perform at missed
  unfold after perform
  cases updated : store.update name id changes with
  | ok outcome =>
    cases outcome with
    | none => simp only [updated]
    | some changed => simp [updated] at missed
  | error => simp only [updated]

/-- A change answers no document exactly if there is none under its id. -/
theorem Call.missed_iff (store : Store) (name id : Text) (changes : Value) :
    (Call.update name (.str id) changes).answer store = .ok (.found none) ↔
      Keyed.get? (.str id) (store.collection name) = none := by
  rw [answer, perform, update_text]
  cases Keyed.get? (.str id) (store.collection name) with
  | none => simp
  | some document => cases Document.ofChanges changes <;> simp

theorem Call.run_snoc (calls : List Call) (call : Call) :
    run (calls ++ [call]) = call.after (run calls) := by
  rw [run, List.foldl_append]
  rfl

end SurveyDesk.Store
