import SurveyDesk.Proofs.Fault
import SurveyDesk.Proofs.Store.Collection

/-! Finding documents is a matter of the documents alone. A predicate with a single plain key asks
for the value under that key, and the documents that are found are exactly those of which the
predicate holds, in their order. -/
namespace SurveyDesk.Store

/-- A page of documents from a list, as a store finds them in a collection. -/
def pageOf (predicate : Value) (sort : SortSpec) (number size : Int) (scope : Option Value)
    (documents : List Document) : Except Fault Page := do
  let found ← hits scope predicate documents
  let sorted ← sort.sort found
  return ⟨sorted.length, (paged sorted number size).map Document.shown⟩

theorem find_eq_pageOf (store : Store) (name : Text) (predicate : Value) (sort : SortSpec)
    (number size : Int) (scope : Option Value) :
    store.find name predicate sort number size scope =
      pageOf predicate sort number size scope (Keyed.contents (store.collection name)) := rfl

/-- A scope that can be decided for every document leaves those within it to the predicate. -/
theorem hits_scoped {scope predicate : Value} {document : α → Document} {within : α → Bool}
    (decided : ∀ item, Predicate.holds (document item).named scope = .ok (within item))
    (items : List α) :
    hits (some scope) predicate (items.map document) =
      hits none predicate ((items.filter within).map document) := by
  induction items with
  | nil => rfl
  | cons item rest ih =>
    by_cases inside : within item
    · rw [List.filter_cons_of_pos inside]
      simp only [List.map_cons, hits, decided, inside, ih]
      rfl
    · rw [List.filter_cons_of_neg inside, ← ih]
      simp only [List.map_cons, hits, decided, inside]
      cases hits (some scope) predicate (rest.map document) <;> rfl

/-- A predicate that can be decided for every document finds those of which it holds. -/
theorem hits_decided {predicate : Value} {document : α → Document} {within : α → Bool}
    (decided : ∀ item, Predicate.holds (document item).named predicate = .ok (within item))
    (items : List α) :
    hits none predicate (items.map document) = .ok ((items.filter within).map document) := by
  induction items with
  | nil => rfl
  | cons item rest ih =>
    simp only [List.map_cons, hits, decided, ih, List.filter_cons]
    cases within item <;> rfl

/-- Whether a document is a hit: it satisfies the scope, if there is one, and the predicate. Outside
the scope the predicate is not asked. -/
def judge (scope : Option Value) (predicate : Value) (document : Document) : Except Fault Bool := do
  let inScope ← match scope with
    | none => pure true
    | some scope => Predicate.holds document.named scope
  if inScope then Predicate.holds document.named predicate else return false

/-- Whether a document is judged to be a hit. -/
def isHit (scope : Option Value) (predicate : Value) (document : Document) : Bool :=
  match judge scope predicate document with
  | .ok hit => hit
  | .error _ => false

private theorem hits_cons (scope : Option Value) (predicate : Value) (document : Document)
    (rest : List Document) :
    hits scope predicate (document :: rest) = (do
      let hit ← judge scope predicate document
      let others ← hits scope predicate rest
      return if hit then document :: others else others) := by
  cases scope with
  | none => rfl
  | some scope =>
    simp only [hits, judge]
    cases Predicate.holds document.named scope with
    | error fault => rfl
    | ok inScope => cases inScope <;> rfl

/-- Documents are found exactly if each can be judged, and what is found are the hits, in their
order. -/
theorem hits_eq_ok (scope : Option Value) (predicate : Value) (documents : List Document) :
    hits scope predicate documents = .ok found ↔
      (∀ document ∈ documents, ∃ hit, judge scope predicate document = .ok hit) ∧
        found = documents.filter (isHit scope predicate) := by
  induction documents generalizing found with
  | nil => simp [hits, eq_comm]
  | cons document rest ih =>
    rw [hits_cons, List.forall_mem_cons, List.filter_cons, isHit]
    cases judged : judge scope predicate document with
    | error fault => simp
    | ok hit =>
      simp only [ok_bind, bind_eq_ok, ih, pure_eq_ok, Except.ok.injEq, exists_eq', true_and]
      constructor
      · rintro ⟨others, ⟨settled, rfl⟩, rfl⟩
        exact ⟨settled, rfl⟩
      · rintro ⟨settled, rfl⟩
        exact ⟨_, ⟨settled, rfl⟩, rfl⟩

/-- The documents that are found without a scope are those of which the predicate holds. -/
theorem hits_eq_filter {predicate : Value} {documents found : List Document}
    (answered : hits none predicate documents = .ok found) :
    found = documents.filter fun document =>
      match Predicate.holds document.named predicate with
      | .ok satisfied => satisfied
      | .error _ => false :=
  ((hits_eq_ok none predicate documents).mp answered).2

/-- A key that is a path of one step and does not hold alternatives. -/
structure PlainKey (key : Text) : Prop where
  single : Path.parts key = [key]
  noAlternatives : key ≠ Predicate.orKey

theorem at?_plain (plain : PlainKey key) (document : Value) :
    document.at? key = document.get? key := by
  rw [Value.at?, plain.single]
  simp only [Value.follow?]
  cases document.get? key <;> rfl

/-- A predicate with one plain key expects its value under that key. -/
theorem holds_single (plain : PlainKey key) (document wanted : Value) :
    Predicate.holds document (.object [(key, wanted)]) =
      Predicate.expectedHolds (document.get? key) wanted := by
  simp only [Predicate.holds, Predicate.holdsAll, if_neg plain.noAlternatives, at?_plain plain]
  cases Predicate.expectedHolds (document.get? key) wanted with
  | error fault => rfl
  | ok satisfied => cases satisfied <;> rfl

/-- The first item whose name is as expected. -/
def firstNamed (name : α → Text) (wanted : Value) : List α → Except Fault (Option α)
  | [] => .ok none
  | item :: rest => do
    if ← Predicate.expectedHolds (some (.str (name item))) wanted then return some item
    else firstNamed name wanted rest

theorem firstWhere_single (plain : PlainKey key) (name : α → Text) (document : α → Document)
    (named : ∀ item, (document item).named.get? key = some (.str (name item))) (wanted : Value)
    (items : List α) :
    firstWhere (.object [(key, wanted)]) (items.map document) =
      (firstNamed name wanted items).map (Option.map fun item => (document item).shown) := by
  induction items with
  | nil => rfl
  | cons item rest ih =>
    simp only [List.map_cons, firstWhere, holds_single plain, named, ih, firstNamed]
    cases Predicate.expectedHolds (some (.str (name item))) wanted with
    | error fault => rfl
    | ok satisfied => cases satisfied <;> rfl

theorem expectedHolds_key {wanted : Value} (key : wanted.isKey = true) (actual : Value) :
    Predicate.expectedHolds (some actual) wanted = .ok (actual.equals wanted) := by
  cases wanted with
  | list _ | object _ => cases key
  | _ => simp only [Predicate.expectedHolds]

/-- A key names the first item whose name it is. -/
theorem firstNamed_key {wanted : Value} (key : wanted.isKey = true) (name : α → Text)
    (items : List α) :
    firstNamed name wanted items =
      .ok (items.find? fun item => (Value.str (name item)).equals wanted) := by
  induction items with
  | nil => rfl
  | cons item rest ih =>
    rw [firstNamed, expectedHolds_key key, ih, ok_bind, List.find?_cons]
    cases (Value.str (name item)).equals wanted <;> rfl

/-- A text names the first item whose name it is. -/
theorem firstNamed_text (name : α → Text) (items : List α) (id : Text) :
    firstNamed name (.str id) items = .ok (items.find? fun item => name item = id) := by
  have same : (fun item => (Value.str (name item)).equals (.str id)) =
      fun item => decide (name item = id) := funext fun item => Value.text_equals_text _ _
  rw [firstNamed_key rfl, same]

/-- Whatever names an item by equality is the item's name. -/
theorem eq_name_of_expectedHolds {wanted : Value} {name : Text} (key : wanted.isKey = true)
    (holds : Predicate.expectedHolds (some (.str name)) wanted = .ok true) :
    wanted = .str name := by
  rw [expectedHolds_key key, Except.ok.injEq, Value.text_equals_iff] at holds
  exact holds

theorem firstNamed_some {name : α → Text} {wanted : Value} {items : List α}
    (found : firstNamed name wanted items = .ok (some item)) :
    item ∈ items ∧ Predicate.expectedHolds (some (.str (name item))) wanted = .ok true := by
  induction items with
  | nil => cases found
  | cons first rest ih =>
    simp only [firstNamed] at found
    cases held : Predicate.expectedHolds (some (.str (name first))) wanted with
    | error fault => rw [held] at found; cases found
    | ok satisfied =>
      rw [held] at found
      cases satisfied with
      | true =>
        cases found
        exact ⟨by simp, held⟩
      | false => exact (ih found).imp_left (List.mem_cons_of_mem _)

end SurveyDesk.Store
