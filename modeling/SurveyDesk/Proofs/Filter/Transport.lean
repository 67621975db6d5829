import SurveyDesk.Proofs.Filter.SortList
import SurveyDesk.Proofs.Filter.WireForm
import SurveyDesk.Proofs.Text.Percent

/-! What a client sends in a query parameter is what is read there. A value is sent as its JSON text
with its percent signs encoded and any other characters too; it is read back as it is, and so is a
filter or a sort list whose wire form it is. Only depth stands in the way: that of the JSON text,
and for a filter that of its levels, which are too many long before its text is too deep. -/
namespace SurveyDesk.Filter
open Json (IsExact nesting nestingLimit)

/-- Whether a raw text sends a value: it is a percent-encoded form of the value's JSON text. -/
def Sends (raw : String) (value : Value) : Prop :=
  Percent.Encodes (Json.write .spaced value) raw.toList

variable {raw : String} {value : Value} {items : List Item} {requests : List SortRequest}

/-! ## Values -/

theorem decode_sent (exact : IsExact value) (sends : Sends raw value) :
    nesting value ≤ nestingLimit ∧ QueryParameter.decode raw = .ok value ∨
      ¬ nesting value ≤ nestingLimit ∧
        ∃ opened source, QueryParameter.decode raw = .error (.tooDeep opened, source) := by
  have text := Percent.decode_encodes sends
  have read := Json.readWithin_write Json.Spacing.sound_spaced nestingLimit exact
  simp only [QueryParameter.decode, Json.read, Text.points_whole, text]
  rcases read with ⟨fits, read⟩ | ⟨deep, opened, read⟩
  · exact .inl ⟨fits, by rw [read]⟩
  · exact .inr ⟨deep, opened, _, by rw [read]⟩

theorem payloadValue_sent (exact : IsExact value) (sends : Sends raw value) :
    payloadValue (.str raw) =
      if nesting value ≤ nestingLimit then .ok value else .error .tooDeep := by
  rcases decode_sent exact sends with ⟨fits, decoded⟩ | ⟨deep, opened, source, decoded⟩
  · rw [if_pos fits, payloadValue, decoded]
  · rw [if_neg deep, payloadValue, decoded]

/-! ## Filters -/

/-- A filter that is sent is read as it is unless it has too many levels. -/
theorem readFilter_sent (typed : ItemsTyped items) (exact : IsExact (.list (itemValues items)))
    (sends : Sends raw (.list (itemValues items))) :
    readFilter (.str raw) =
      if levels (.list (itemValues items)) ≤ levelLimit then .ok items else .error .tooDeep := by
  have decoded := payloadValue_sent exact sends
  by_cases fits : nesting (.list (itemValues items)) ≤ nestingLimit
  · exact readFilter_itemValues typed (decoded.trans (if_pos fits))
  · have bound : nesting (.list (itemValues items)) ≤ 4 * levels (.list (itemValues items)) :=
      nesting_itemValues typed
    have many : ¬ levels (.list (itemValues items)) ≤ levelLimit := by
      unfold nestingLimit at fits
      unfold levelLimit
      omega
    rw [readFilter, decoded, if_neg fits, if_neg many]
    rfl

/-! ## Sort lists -/

/-- The wire forms of sort requests with texts as their fields are a sort list. -/
theorem isSortList_sent (texts : ∀ request ∈ requests, isText request.field) :
    IsSortList (.list (requests.map SortRequest.toValue)) requests := by
  refine .list (List.forall₂_map_left_iff.mpr (List.forall₂_same.mpr fun request member => ?_))
  have text := texts request member
  obtain ⟨field, direction⟩ := request
  cases field with
  | str name => exact .object rfl
  | _ => cases text

/-- A sort list that is sent is read as it is unless its text is nested too deeply. -/
theorem readSort_sent (texts : ∀ request ∈ requests, isText request.field)
    (exact : IsExact (.list (requests.map SortRequest.toValue)))
    (sends : Sends raw (.list (requests.map SortRequest.toValue))) :
    readSort (.str raw) =
      if nesting (.list (requests.map SortRequest.toValue)) ≤ nestingLimit then .ok requests
      else .error .tooDeep := by
  have decoded := payloadValue_sent exact sends
  split at decoded
  · rename_i fits
    rw [if_pos fits]
    exact readSort_eq_ok.mpr ⟨_, decoded, isSortList_sent texts⟩
  · rename_i deep
    rw [if_neg deep, readSort, decoded]
    rfl

/-! ## Transport -/

/-- Decoding undoes encoding: of a value, of a filter and of a sort list. A value is read back
exactly if it is not nested too deeply; a filter, whose levels are counted as well, and a sort list
are read back or refused for their depth. -/
theorem decoding_undoes_encoding :
    (∀ {raw : String} {value : Value}, IsExact value → Sends raw value →
      (QueryParameter.decode raw = .ok value ↔ nesting value ≤ nestingLimit)) ∧
    (∀ {raw : String} {items : List Item}, ItemsTyped items →
      IsExact (.list (itemValues items)) → Sends raw (.list (itemValues items)) →
      readFilter (.str raw) =
        if levels (.list (itemValues items)) ≤ levelLimit then .ok items else .error .tooDeep) ∧
    (∀ {raw : String} {requests : List SortRequest}, (∀ request ∈ requests, isText request.field) →
      IsExact (.list (requests.map SortRequest.toValue)) →
      Sends raw (.list (requests.map SortRequest.toValue)) →
      readSort (.str raw) =
        if nesting (.list (requests.map SortRequest.toValue)) ≤ nestingLimit then .ok requests
        else .error .tooDeep) := by
  refine ⟨fun exact sends => ?_, readFilter_sent, readSort_sent⟩
  rcases decode_sent exact sends with ⟨fits, decoded⟩ | ⟨deep, opened, source, decoded⟩
  · exact ⟨fun _ => fits, fun _ => decoded⟩
  · rw [decoded]
    exact ⟨nofun, fun fits => absurd fits deep⟩

/-- A percent sign between an encoded and a plain quotation mark. -/
private theorem sends_percent : Sends "%22%25\"" (.str "%") := by
  have quote : Percent.Escapes (Utf8.encodeChar '"') ['%', '2', '2'] :=
    .cons (.inl rfl) (.inl rfl) .nil
  have percent : Percent.Escapes (Utf8.encodeChar '%') ['%', '2', '5'] :=
    .cons (.inl rfl) (.inl rfl) .nil
  have last : Percent.Encodes ['"'] ['"'] := .unchanged (by decide)
  exact .escaped quote (.escaped percent last)

private def accented : List Item :=
  [.group .every [.compare (.str "title") .null (.scalar (.str "é"))]]

private def sentAccented : String :=
  "[\x7b\"condition\": [\x7b\"field\": \"title\", \"value\": \"\\u00e9\"\x7d]\x7d]"

private def byTitle : List SortRequest := [⟨.str "title", .int (-1)⟩]

private def sentOrder : String := "[\x7b\"field\": \"title\", \"value\": -1\x7d]"

theorem decoding_undoes_encoding_titles :
    QueryParameter.decode "%22%25\"" = .ok (.str "%") ∧
    readFilter (.str sentAccented) = .ok accented ∧ readSort (.str sentOrder) = .ok byTitle := by
  obtain ⟨value, filter, order⟩ := decoding_undoes_encoding
  have text : IsExact (.str "%") := rfl
  have typed : ItemsTyped accented := ⟨⟨rfl, rfl, rfl, trivial⟩, trivial⟩
  have condition : IsExact (Condition.toValue (.compare (.str "title") .null
      (.scalar (.str "é")))) := ⟨by decide, by decide, rfl, rfl, trivial⟩
  have exactAccented : IsExact (.list (itemValues accented)) :=
    ⟨⟨by decide, by decide, ⟨condition, trivial⟩, trivial⟩, trivial⟩
  have title : Sends sentAccented (.list (itemValues accented)) := .unchanged (by decide)
  have texts : ∀ request ∈ byTitle, isText request.field := by decide
  have direction : IsExact (.int (-1)) := by
    have small : Int.natAbs (-1) < Nat.pow 10 Json.numeralLimit := by decide +kernel
    exact small
  have exactOrder : IsExact (.list (byTitle.map SortRequest.toValue)) :=
    ⟨⟨by decide, by decide, rfl, direction, trivial⟩, trivial⟩
  have sent : Sends sentOrder (.list (byTitle.map SortRequest.toValue)) := .unchanged (by decide)
  exact ⟨(value text sends_percent).mpr (by decide), filter typed exactAccented title,
    order texts exactOrder sent⟩

end SurveyDesk.Filter
