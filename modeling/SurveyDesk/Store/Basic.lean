import SurveyDesk.Store.Document
import SurveyDesk.Store.Ordering
import SurveyDesk.Store.Predicate

/-!
The document store: named collections of documents under their ids, in order of first insertion.
Inserting a document again under its id replaces it in its place; a change is laid over the
document at its top level.
-/
namespace SurveyDesk

/-- Documents under their ids, in order of first insertion. -/
abbrev Collection := Keyed Document

/-- The collections under their names. -/
structure Store where
  collections : List (Text × Collection)
  deriving Repr, Inhabited

/-- A page of documents and the number of documents on all pages. -/
structure Page where
  total : Nat
  documents : List Value
  deriving Repr

namespace Store

/-- The store without collections. -/
def empty : Store := ⟨[]⟩

/-- The collection with a name; one that was never written to is empty. -/
def collection (store : Store) (name : Text) : Collection :=
  (store.collections.lookup name).getD []

/-- A list of named collections with one of them replaced. -/
def replaced (name : Text) (content : Collection) :
    List (Text × Collection) → List (Text × Collection)
  | [] => [(name, content)]
  | (other, old) :: rest =>
    if other = name then (other, content) :: rest else (other, old) :: replaced name content rest

/-- The store with a collection replaced. -/
def withCollection (store : Store) (name : Text) (content : Collection) : Store :=
  ⟨replaced name content store.collections⟩

/-- The key of a document's id. -/
def idKey : Text := "_id"

/-- Whether a text holds another. -/
def textHolds (part : List Point) : List Point → Bool
  | [] => part.isEmpty
  | point :: rest => part.isPrefixOf (point :: rest) || textHolds part rest

/-- The id and the entries of a document that is to be inserted. A list or a text that holds `_id`
has no entry under it. -/
def idAndEntriesOf : Value → Except Fault (Value × Entries)
  | .object entries =>
    match Entries.get? entries idKey with
    | some id => if id.isKey then .ok (id, entries) else .error .wrongKind
    | none => .error .documentWithoutId
  | .list items =>
    .error (if items.any (·.equals (.str idKey)) then .wrongKind else .documentWithoutId)
  | .str text =>
    .error (if textHolds idKey.points text.points then .wrongKind else .documentWithoutId)
  | _ => .error .wrongKind

/-- The store with a document inserted. -/
def insert (store : Store) (name : Text) (document : Value) : Except Fault Store := do
  let (id, entries) ← idAndEntriesOf document
  let content := Keyed.put id (Document.ofEntries entries) (store.collection name)
  return store.withCollection name content

/-- The store with changes laid over a document, and the document as it is then; nothing if there
is no document under the id. -/
def update (store : Store) (name : Text) (id changes : Value) :
    Except Fault (Option (Store × Value)) :=
  if !id.isKey then .error .wrongKind
  else
    match Keyed.get? id (store.collection name) with
    | none => .ok none
    | some document => do
      let document : Document := Keyed.putAll document (← Document.ofChanges changes)
      let content := Keyed.put id document (store.collection name)
      return some (store.withCollection name content, document.shown)

/-- The first document that satisfies a predicate. -/
def firstWhere (predicate : Value) : List Document → Except Fault (Option Value)
  | [] => .ok none
  | document :: rest => do
    if ← Predicate.holds document.named predicate then return some document.shown
    else firstWhere predicate rest

/-- The first document of a collection that satisfies a predicate. -/
def findOne (store : Store) (name : Text) (predicate : Value) : Except Fault (Option Value) :=
  firstWhere predicate (Keyed.contents (store.collection name))

/-- The documents that satisfy a scope, if there is one, and a predicate. -/
def hits (scope : Option Value) (predicate : Value) :
    List Document → Except Fault (List Document)
  | [] => .ok []
  | document :: rest => do
    let inScope ← match scope with
      | none => pure true
      | some scope => Predicate.holds document.named scope
    let isHit ← if inScope then Predicate.holds document.named predicate else pure false
    let others ← hits scope predicate rest
    return if isHit then document :: others else others

/-- The part of a list that a page shows. Pages are counted from one, and a size that is not
positive shows everything. -/
def paged (documents : List Document) (number size : Int) : List Document :=
  if size ≤ 0 then documents
  else (documents.drop ((max (number - 1) 0) * size).toNat).take size.toNat

/-- A page of the documents that satisfy a scope and a predicate, sorted. -/
def find (store : Store) (name : Text) (predicate : Value) (sort : SortSpec)
    (number size : Int) (scope : Option Value) : Except Fault Page := do
  let found ← hits scope predicate (Keyed.contents (store.collection name))
  let sorted ← sort.sort found
  return ⟨sorted.length, (paged sorted number size).map Document.shown⟩

/-- The store with all collections dropped. -/
def clear (_ : Store) : Store := empty

end Store
end SurveyDesk
