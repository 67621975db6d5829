import SurveyDesk.Fault
import SurveyDesk.Value.Keyed
import SurveyDesk.Value.Literal

/-!
Documents, and the changes that are laid over them. A document is inserted with texts as its keys;
a change may bring keys of other kinds, which no path leads to and which are shown as texts.
-/
namespace SurveyDesk

/-- A document. -/
abbrev Document := Keyed Value

namespace Document

/-- The document with the entries of an object. -/
def ofEntries (entries : Entries) : Document :=
  entries.map fun entry => (.str entry.1, entry.2)

/-- The entries under texts, as an object. -/
def named (document : Document) : Value :=
  .object (document.filterMap fun (key, value) =>
    match key with
    | .str name => some (name, value)
    | _ => none)

/-- The document as an object, given how a key is spelled. Of keys that are spelled alike the last
one counts. -/
def spelled (spelling : Value → Text) (document : Document) : Value :=
  .object (Entries.ofPairs (document.map fun (key, value) => (spelling key, value)))

/-- A key as a text. -/
def nameOf (key : Value) : Text := key.asText

/-- The document as an object. -/
def shown (document : Document) : Value := document.spelled nameOf

/-- The values that a value is a sequence of: the items of a list, the characters of a text, the
keys of an object. -/
def sequence? : Value → Option (List Value)
  | .list items => some items
  | .str text => some (text.points.map fun point => .str (.ofPoints [point]))
  | .object entries => some (entries.map fun entry => .str entry.1)
  | _ => none

/-- A document with the keys and the values that items stand for. -/
def withItems (document : Document) (place : Nat) : List Value → Except Fault Document
  | [] => .ok document
  | item :: rest =>
    match sequence? item with
    | some [key, value] =>
      if key.isKey then withItems (Keyed.put key value document) (place + 1) rest
      else .error .wrongKind
    | some others => .error (.notPair place others.length)
    | none => .error .wrongKind

/-- The document that is laid over another: an object, or a sequence of keys with values. -/
def ofChanges : Value → Except Fault Document
  | .object entries => .ok (ofEntries entries)
  | changes =>
    match sequence? changes with
    | some items => withItems [] 0 items
    | none => .error .wrongKind

end Document
end SurveyDesk
