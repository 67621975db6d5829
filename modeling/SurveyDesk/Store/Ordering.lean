import SurveyDesk.Store.Document
import SurveyDesk.Store.Path
import SurveyDesk.Value.Comparison

/-!
Sorting documents by the values at paths. A missing or null value comes before every other, and
documents that tie keep their order, whatever the direction.
-/
namespace SurveyDesk

/-- A sort specification: paths with their directions, the most significant first. Minus one is
descending, anything else ascending. -/
abbrev SortSpec := Entries

namespace SortSpec

/-- What a document is sorted by: nothing where its path leads nowhere or to null. -/
abbrev Key := Option Value

/-- The key of a document. -/
def keyOf (path : Text) (document : Document) : Key :=
  match document.named.at? path with
  | none | some .null => none
  | some value => some value

/-- Whether one key comes before another, or nothing where they cannot be compared. -/
def Key.before? : Key → Key → Option Bool
  | none, other => some other.isSome
  | some _, none => some false
  | some a, some b => if a.alike b then some false else a.before? b

/-- Whether all keys can be compared with one another. -/
def comparable : List Key → Bool
  | [] => true
  | key :: rest =>
    (rest.all fun other => (Key.before? key other).isSome && (Key.before? other key).isSome)
      && comparable rest

/-- Whether a document may stay ahead of another that follows it. -/
def staysAhead (path : Text) (descending : Bool) (a b : Document) : Bool :=
  if descending then (Key.before? (keyOf path a) (keyOf path b)).getD false = false
  else (Key.before? (keyOf path b) (keyOf path a)).getD false = false

/-- Documents sorted by one path. -/
def sortBy (path : Text) (descending : Bool) (documents : List Document) :
    Except Fault (List Document) :=
  if comparable (documents.map (keyOf path)) then
    .ok (documents.mergeSort (staysAhead path descending))
  else .error .wrongKind

/-- Whether a direction is the descending one. -/
def isDescending (direction : Value) : Bool := direction.equals (.int (-1))

/-- Documents sorted by all paths: by the last first, so that ties by one path keep the order of
the paths behind it. -/
def sort : SortSpec → List Document → Except Fault (List Document)
  | [], documents => .ok documents
  | (path, direction) :: rest, documents => do
    sortBy path (isDescending direction) (← sort rest documents)

end SortSpec
end SurveyDesk
