import SurveyDesk.Filter.Tree
import SurveyDesk.Proofs.Value.LastOn
import SurveyDesk.Store.Predicate

/-! What a filter says of a document, read off its tree and without compiling it. Conditions on
fields that are not allowed and conditions with unknown comparators say nothing. Of several
conditions on one field only the last counts, within an alternative among its own conditions and
otherwise among the conditions of all items that are no alternatives. -/
namespace SurveyDesk.Filter

/-- How a condition compares what its field leads to. -/
inductive Comparison where
  | equal
  | different
  | matching
  deriving DecidableEq, Repr

/-- The comparison that a comparator asks for. -/
def Comparison.of? : Value → Option Comparison
  | .null => some .equal
  | .str "$ne" => some .different
  | .str "$regex" => some .matching
  | _ => none

/-- The field and the comparison of a condition that counts. -/
def clause? (fields : List Text) (field comparator : Value) : Option (Text × Comparison) :=
  match field, Comparison.of? comparator with
  | .str name, some comparison => if name ∈ fields then some (name, comparison) else none
  | _, _ => none

/-! ## Nested lists as data -/

/-- What is expected in data where a comparison is asked for. -/
def Comparison.expected (operand : Value) : Comparison → Value
  | .equal => operand
  | .different => Predicate.Operator.notEqual.fragment operand
  | .matching => Predicate.Operator.regexMatch.fragment operand

mutual

/-- What a condition compares with, as data. A list of items stands for an object with the fields of
its conditions, each in its first place and with its last content, and with all alternatives
together in the place of the first. -/
def Content.data (fields : List Text) : Content → Value
  | .scalar value => value
  | .nested items =>
    .object (Entries.ofPairs (itemPairs fields (alternativeData fields items) items))

/-- The fields of items with their content, given all alternatives. -/
def itemPairs (fields : List Text) (alternatives : List Value) :
    List Item → List (Text × Value)
  | [] => []
  | .group .every conditions :: rest =>
    conditionPairs fields conditions ++ itemPairs fields alternatives rest
  | .group .either _ :: rest =>
    (Predicate.orKey, .list alternatives) :: itemPairs fields alternatives rest

/-- The alternatives among items, as data. -/
def alternativeData (fields : List Text) : List Item → List Value
  | [] => []
  | .group .every _ :: rest => alternativeData fields rest
  | .group .either conditions :: rest =>
    .object (Entries.ofPairs (conditionPairs fields conditions)) :: alternativeData fields rest

/-- The fields of conditions with their content. -/
def conditionPairs (fields : List Text) : List Condition → List (Text × Value)
  | [] => []
  | .compare field comparator content :: rest =>
    match clause? fields field comparator with
    | some (name, comparison) =>
      (name, comparison.expected (content.data fields)) :: conditionPairs fields rest
    | none => conditionPairs fields rest

end

/-- The object that a list of items stands for as data. -/
def listData (fields : List Text) (items : List Item) : Entries :=
  Entries.ofPairs (itemPairs fields (alternativeData fields items) items)

/-! ## What a tree says -/

/-- Whether a pattern is found in a text, without a fault. -/
def textMatches (pattern : Value) (text : Text) : Bool :=
  match Predicate.found pattern text with
  | .ok answer => answer
  | .error _ => false

/-- Whether a comparison with an operand holds of what a path leads to. -/
def Comparison.holds (actual : Option Value) (operand : Value) : Comparison → Bool
  | .equal =>
    match actual with
    | none => match operand with | .null => true | _ => false
    | some value => value.equals operand
  | .different =>
    match actual with
    | none => true
    | some value => !value.equals operand
  | .matching =>
    match actual with
    | none | some .null => false
    | some value => textMatches operand value.asText

/-- Whether the last verdict on every name is that it holds. -/
def lastsHold (verdicts : List (Text × Bool)) : Bool :=
  verdicts.all fun verdict => lastOn verdict.1 verdicts = some true

/-- Whether there is nothing to choose from or one choice holds. -/
def someHolds (choices : List Bool) : Bool := choices.isEmpty || choices.any id

mutual

/-- Whether a comparison with content holds of what a path leads to. Without a comparator a list of
items is asked of the object there. -/
def contentHolds (fields : List Text) (actual : Option Value) (comparison : Comparison) :
    Content → Bool
  | .scalar value => comparison.holds actual value
  | .nested items =>
    match comparison, actual with
    | .equal, some (.object inner) =>
      lastsHold (everyVerdicts fields (.object inner) items)
        && someHolds (eitherVerdicts fields (.object inner) items)
    | .equal, _ => false
    | comparison, actual => comparison.holds actual ((Content.nested items).data fields)

/-- The verdicts of the items that are no alternatives, field by field. -/
def everyVerdicts (fields : List Text) (document : Value) : List Item → List (Text × Bool)
  | [] => []
  | .group .every conditions :: rest =>
    conditionVerdicts fields document conditions ++ everyVerdicts fields document rest
  | .group .either _ :: rest => everyVerdicts fields document rest

/-- Whether each of the alternatives holds. -/
def eitherVerdicts (fields : List Text) (document : Value) : List Item → List Bool
  | [] => []
  | .group .every _ :: rest => eitherVerdicts fields document rest
  | .group .either conditions :: rest =>
    lastsHold (conditionVerdicts fields document conditions)
      :: eitherVerdicts fields document rest

/-- The verdicts of conditions, field by field. -/
def conditionVerdicts (fields : List Text) (document : Value) :
    List Condition → List (Text × Bool)
  | [] => []
  | .compare field comparator content :: rest =>
    match clause? fields field comparator with
    | some (name, comparison) =>
      (name, contentHolds fields (document.at? name) comparison content)
        :: conditionVerdicts fields document rest
    | none => conditionVerdicts fields document rest

end

/-- Whether a list of items holds of a document. -/
def listHolds (fields : List Text) (document : Value) (items : List Item) : Bool :=
  lastsHold (everyVerdicts fields document items)
    && someHolds (eitherVerdicts fields document items)

mutual

/-- The patterns that are searched for where a comparison with content is made. -/
def contentPatterns (fields : List Text) (comparison : Comparison) : Content → List Value
  | .scalar value => if comparison = .matching then [value] else []
  | .nested items =>
    match comparison with
    | .equal => itemPatterns fields items
    | .different => []
    | .matching => [(Content.nested items).data fields]

/-- The patterns that are searched for by items. -/
def itemPatterns (fields : List Text) : List Item → List Value
  | [] => []
  | .group _ conditions :: rest =>
    conditionPatterns fields conditions ++ itemPatterns fields rest

/-- The patterns that are searched for by conditions. -/
def conditionPatterns (fields : List Text) : List Condition → List Value
  | [] => []
  | .compare field comparator content :: rest =>
    match clause? fields field comparator with
    | some (_, comparison) =>
      contentPatterns fields comparison content ++ conditionPatterns fields rest
    | none => conditionPatterns fields rest

end

end SurveyDesk.Filter
