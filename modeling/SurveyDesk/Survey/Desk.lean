import SurveyDesk.Store.Basic
import SurveyDesk.Store.Copy

/-!
The desk that surveys are managed at: the documents, the clock, and counters for the ids that it
gives out. An operation that fails keeps what it changed before it failed.
-/
namespace SurveyDesk

/-- The time: whole seconds and the milliseconds beyond them. It passes between readings: `passing`
tells for each of the next readings how many milliseconds pass after it, and none pass after those
that it does not tell of. -/
@[ext] structure Time where
  seconds : Int
  millis : Int
  passing : List Int
  deriving Repr, Inhabited

namespace Time

/-- A time that starts with a second and passes between operations only. -/
def still (seconds : Int) : Time := ⟨seconds, 0, []⟩

/-- The time in milliseconds. -/
def inMillis (time : Time) : Int := time.seconds * 1000 + time.millis

/-- The time after a reading. -/
def read (time : Time) : Time :=
  let millis := time.millis + time.passing.headD 0
  ⟨time.seconds + millis / 1000, millis % 1000, time.passing.tail⟩

end Time

/-- What the desk holds. -/
structure Desk where
  store : Store
  time : Time
  idsGiven : Nat
  tokensGiven : Nat
  deriving Repr, Inhabited

/-- An operation at the desk. -/
abbrev Work := ExceptT Fault (StateM Desk)

namespace Desk

/-- The current second. -/
def clock (desk : Desk) : Int := desk.time.seconds

/-- The current time in milliseconds. -/
def now (desk : Desk) : Int := desk.time.inMillis

/-- A desk without documents. -/
def opened (clock : Int) : Desk := ⟨Store.empty, .still clock, 0, 0⟩

/-- The desk after some seconds. -/
def later (desk : Desk) (seconds : Int) : Desk :=
  { desk with time := { desk.time with seconds := desk.time.seconds + seconds } }

end Desk

namespace Work

/-- What an operation on documents gives. -/
def ofOutcome {α : Type} (outcome : Except Fault α) : Work α := ExceptT.mk (pure outcome)

/-- Reads the time in milliseconds; some may have passed at the next reading. -/
def now : Work Int := do
  let desk ← get
  set { desk with time := desk.time.read }
  return desk.now

/-- A new id. -/
def freshId : Work Value := do
  let desk ← get
  set { desk with idsGiven := desk.idsGiven + 1 }
  return .str (.whole ("id" ++ toString (desk.idsGiven + 1)))

/-- Copies a value from within so many calls. -/
def copy (calls : Nat) (value : Value) : Work Unit :=
  if Copyable calls value then return () else throw .tooDeep

/-- Inserts a document that needs no copy: its parts are texts, numbers, or copies already. -/
def insert (name : Text) (document : Value) : Work Unit := do
  let store ← ofOutcome ((← get).store.insert name document)
  modify fun desk => { desk with store }

/-- Lays changes over a document; gives the document as it is then, if there is one. -/
def update (name : Text) (id changes : Value) : Work (Option Value) := do
  match ← ofOutcome ((← get).store.update name id changes) with
  | none => return none
  | some (store, document) =>
    modify fun desk => { desk with store }
    return some document

/-- Inserts a copy of a document. -/
def insertCopy (calls : Nat) (name : Text) (document : Value) : Work Unit := do
  copy calls document
  insert name document

/-- Lays a copy of changes over a document. They are copied only if there is such a document. -/
def updateCopy (calls : Nat) (name : Text) (id changes : Value) : Work (Option Value) := do
  if (Keyed.get? id ((← get).store.collection name)).isSome then copy calls changes
  update name id changes

/-- The first document that satisfies a predicate. -/
def findOne (name : Text) (predicate : Value) : Work (Option Value) := do
  ofOutcome ((← get).store.findOne name predicate)

/-- A page of the documents that satisfy a scope and a predicate. -/
def find (name : Text) (predicate : Value) (sort : SortSpec) (number size : Int)
    (scope : Option Value) : Work Page := do
  ofOutcome ((← get).store.find name predicate sort number size scope)

/-- Refuses an operation. -/
def refuse {α : Type} (code : RefusalCode) (message : Text) : Work α :=
  throw (.refused code message)

end Work

/-- The entry of a value under a key, which must be there. -/
def Value.entry (value : Value) (key : Text) : Except Fault Value :=
  match value with
  | .object entries =>
    match Entries.get? entries key with
    | some value => .ok value
    | none => .error .missingEntry
  | _ => .error .wrongKind

end SurveyDesk
