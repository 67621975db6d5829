import Mathlib.Data.List.Forall2
import SurveyDesk.Proofs.Filter.Grammar
import SurveyDesk.Proofs.Filter.Paths
import SurveyDesk.Proofs.Json.Depth

/-! How sort lists are read. The grammar of sort lists is said together with what they stand for,
and without the checks that look for violations. Whatever follows it is read, and everything else is
refused for its form, with one exception: what is nested too deeply is not refused but fails. A text
does so as a whole, and a value that was not sent as a text only where a part of it that is out of
place is so deep that the report cannot show it. -/
namespace SurveyDesk.Filter
open Json (nesting nestingLimit)

/-! ## The grammar -/

/-- An object with a text as its field, and its sort request: the field and what stands as its
value, which is null if nothing does. -/
inductive StandsFor : Value → SortRequest → Prop where
  | object {entries : Entries} {field : Text}
    (named : entries.get? fieldKey = some (.str field)) :
    StandsFor (.object entries) ⟨.str field, (entries.get? valueKey).getD .null⟩

/-- A list of such objects, and their sort requests in order. -/
inductive IsSortList : Value → List SortRequest → Prop where
  | list {values : List Value} {requests : List SortRequest}
    (each : List.Forall₂ StandsFor values requests) : IsSortList (.list values) requests

/-- What is out of place in an element of a sort list: the element, which is no object, or its
field, which is no text. -/
inductive OutOfElement : Value → Value → Prop where
  | element {element : Value} (other : ∀ entries, element ≠ .object entries) :
    OutOfElement element element
  | field {entries : Entries} {field : Value} (found : entries.get? fieldKey = some field)
    (other : isText field = false) : OutOfElement (.object entries) field

/-- What is out of place in a value as a sort list: the value, which is no list, or what is out of
place in one of its elements. -/
inductive OutOfPlace : Value → Value → Prop where
  | root {value : Value} (other : ∀ values, value ≠ .list values) : OutOfPlace value value
  | inside {values : List Value} {element part : Value} (member : element ∈ values)
    (out : OutOfElement element part) : OutOfPlace (.list values) part

/-- Whether a payload is nested too deeply: it is a text that cannot be decoded for that, or a part
of it is out of place that is. -/
inductive IsTooDeep : Value → Prop where
  | text {raw : Text} {opened : Json.Container} {source : List Point}
    (decoded : QueryParameter.decode raw = .error (.tooDeep opened, source)) : IsTooDeep (.str raw)
  | part {value part : Value} (out : OutOfPlace value part)
    (deep : nestingLimit < nesting part) : IsTooDeep value

/-- Whether a rejection says what is wrong with the form of a payload. -/
def Rejection.blamesForm : Rejection → Bool
  | .notJson _ _ | .misshapen _ => true
  | .tooDeep | .unreadable _ => false

variable {payload value part : Value} {requests : List SortRequest} {rejection : Rejection}

/-! ## Sort lists -/

/-- Elements are looked at one by one. -/
theorem requestListViolations_cons (place : Nat) (value : Value) (rest : List Value) :
    requestListViolations place (value :: rest) =
      requestListViolations place [value] ++ requestListViolations (place + 1) rest := by
  cases value <;> simp [requestListViolations]

theorem elementViolations_eq_nil (place : Nat) (element : Value) :
    requestListViolations place [element] = [] ↔ ∃ request, StandsFor element request := by
  cases element with
  | object entries =>
    rw [requestListViolations, requestListViolations, List.append_nil, List.append_eq_nil_iff,
      notText_eq_nil, lacking_eq_nil]
    constructor
    · rintro ⟨texts, field, found⟩
      have text := texts field found
      cases field with
      | str name => exact ⟨_, .object found⟩
      | _ => cases text
    · rintro ⟨_, ⟨named⟩⟩
      refine ⟨fun value found => ?_, _, named⟩
      cases named.symm.trans found
      rfl
  | _ =>
    constructor
    · intro clean
      cases clean
    · rintro ⟨_, stands⟩
      cases stands

theorem requestListViolations_eq_nil (place : Nat) (values : List Value) :
    requestListViolations place values = [] ↔
      ∃ requests, List.Forall₂ StandsFor values requests := by
  induction values generalizing place with
  | nil => simp [requestListViolations]
  | cons value rest ih =>
    rw [requestListViolations_cons, List.append_eq_nil_iff, ih, elementViolations_eq_nil]
    constructor
    · rintro ⟨⟨request, first⟩, requests, others⟩
      exact ⟨_, .cons first others⟩
    · rintro ⟨_, each⟩
      cases each with
      | cons first others => exact ⟨⟨_, first⟩, _, others⟩

/-- A value has no violations as a sort list exactly if it is one. -/
theorem sortViolations_eq_nil (value : Value) :
    sortViolations value = [] ↔ ∃ requests, IsSortList value requests := by
  cases value with
  | list values =>
    rw [sortViolations, requestListViolations_eq_nil]
    constructor
    · rintro ⟨requests, each⟩
      exact ⟨requests, .list each⟩
    · rintro ⟨requests, ⟨each⟩⟩
      exact ⟨requests, each⟩
  | _ =>
    constructor
    · intro clean
      cases clean
    · rintro ⟨_, listed⟩
      cases listed

/-- The fields of sort requests are texts. -/
theorem IsSortList.texts (listed : IsSortList value requests) :
    ∀ request ∈ requests, isText request.field = true := by
  obtain ⟨each⟩ := listed
  induction each with
  | nil => exact nofun
  | cons first _ ih =>
    obtain ⟨named⟩ := first
    exact List.forall_mem_cons.mpr ⟨rfl, ih⟩

/-- The sort requests of a sort list are what is read from it. -/
theorem requestsOf_eq_ok (listed : IsSortList value requests) :
    requestsOf value = .ok requests := by
  obtain ⟨each⟩ := listed
  rw [requestsOf]
  induction each with
  | nil => rfl
  | cons first _ ih =>
    obtain ⟨named⟩ := first
    rw [List.mapM_cons, ih, SortRequest.ofValue, named]
    rfl

/-! ## Parts that are out of place -/

theorem not_tooDeep_lacking (key : String) (path : List Step) (entries : Entries) :
    ∀ violation ∈ lacking key path entries, violation.isTooDeep = false := by
  unfold lacking
  split
  · exact nofun
  · simp [Violation.isTooDeep]

theorem tooDeep_notOfKind (name : String) (path : List Step) (value : Value) :
    (∃ violation ∈ notOfKind name path value, violation.isTooDeep = true) ↔
      nestingLimit < nesting value := by
  simp [notOfKind, Violation.isTooDeep]

theorem tooDeep_notText (key : String) (path : List Step) (entries : Entries) :
    (∃ violation ∈ notText key path entries, violation.isTooDeep = true) ↔
      ∃ value, entries.get? key = some value ∧ isText value = false ∧
        nestingLimit < nesting value := by
  unfold notText
  cases found : entries.get? key with
  | none => simp
  | some value =>
    cases value with
    | str text => simp [isText]
    | _ => simp [tooDeep_notOfKind, isText]

theorem tooDeep_element (place : Nat) (element : Value) :
    (∃ violation ∈ requestListViolations place [element], violation.isTooDeep = true) ↔
      ∃ part, OutOfElement element part ∧ nestingLimit < nesting part := by
  cases element with
  | object entries =>
    have shown := tooDeep_notText fieldKey [.index place] entries
    rw [requestListViolations, requestListViolations, List.append_nil]
    constructor
    · rintro ⟨violation, member, deep⟩
      rcases List.mem_append.mp member with wrong | missing
      · obtain ⟨field, found, other, deep⟩ := shown.mp ⟨violation, wrong, deep⟩
        exact ⟨field, .field found other, deep⟩
      · rw [not_tooDeep_lacking _ _ _ violation missing] at deep
        cases deep
    · rintro ⟨part, out, deep⟩
      cases out with
      | element other => exact absurd rfl (other entries)
      | field found other =>
        obtain ⟨violation, wrong, deep⟩ := shown.mpr ⟨part, found, other, deep⟩
        exact ⟨violation, List.mem_append_left _ wrong, deep⟩
  | _ =>
    refine (tooDeep_notOfKind "object" [.index place] _).trans ⟨?_, ?_⟩
    · intro deep
      refine ⟨_, .element fun entries same => ?_, deep⟩
      cases same
    · rintro ⟨part, out, deep⟩
      cases out
      exact deep

theorem tooDeep_elements (place : Nat) (values : List Value) :
    (∃ violation ∈ requestListViolations place values, violation.isTooDeep = true) ↔
      ∃ element ∈ values, ∃ part, OutOfElement element part ∧ nestingLimit < nesting part := by
  induction values generalizing place with
  | nil => simp [requestListViolations]
  | cons value rest ih =>
    rw [requestListViolations_cons]
    simp only [List.mem_append, or_and_right, exists_or, tooDeep_element, ih, List.mem_cons,
      exists_eq_left]

/-- The report shows what is out of place. -/
theorem tooDeep_iff (value : Value) :
    (sortViolations value).any Violation.isTooDeep = true ↔
      ∃ part, OutOfPlace value part ∧ nestingLimit < nesting part := by
  rw [List.any_eq_true]
  cases value with
  | list values =>
    rw [sortViolations, tooDeep_elements]
    constructor
    · rintro ⟨element, member, part, out, deep⟩
      exact ⟨part, .inside member out, deep⟩
    · rintro ⟨part, out, deep⟩
      cases out with
      | root other => exact absurd rfl (other values)
      | inside member out => exact ⟨_, member, part, out, deep⟩
  | _ =>
    refine (tooDeep_notOfKind "array" [] _).trans ⟨?_, ?_⟩
    · intro deep
      refine ⟨_, .root fun values same => ?_, deep⟩
      cases same
    · rintro ⟨part, out, deep⟩
      cases out
      exact deep

/-- Nothing is out of place in a sort list. -/
theorem not_outOfPlace (listed : IsSortList value requests) : ¬ OutOfPlace value part := by
  obtain ⟨each⟩ := listed
  intro out
  cases out with
  | root other => exact other _ rfl
  | inside member out =>
    induction each with
    | nil => cases member
    | cons first _ ih =>
      rcases List.mem_cons.mp member with rfl | later
      · obtain ⟨named⟩ := first
        cases out with
        | element other => exact other _ rfl
        | field found other =>
          cases named.symm.trans found
          cases other
      · exact ih later

/-- What is out of place is nested no deeper than the whole. -/
theorem nesting_outOfPlace (out : OutOfPlace value part) : nesting part ≤ nesting value := by
  cases out with
  | root => exact Nat.le_refl _
  | @inside values element part member out =>
    have inList : nesting element ≤ nesting.itemsNesting values :=
      Json.itemsNesting_le.mp (Nat.le_refl _) element member
    rw [nesting]
    cases out with
    | element => omega
    | @field entries field found =>
      have inObject : nesting part ≤ nesting.entriesNesting entries :=
        Json.entriesNesting_le.mp (Nat.le_refl _) (fieldKey, part) (Entries.mem_of_get? found)
      rw [nesting] at inList
      omega

/-! ## Payloads -/

/-- What is decoded is read if it is a sort list. If it is none, a deep part that is out of place
fails, and else the form is what is wrong. -/
theorem readSort_of_value (decoded : payloadValue payload = .ok value) :
    (∀ requests, IsSortList value requests → readSort payload = .ok requests) ∧
    ((∀ requests, ¬ IsSortList value requests) → ∃ violation, readSort payload = .error
      (if (sortViolations value).any Violation.isTooDeep then .tooDeep
        else .misshapen violation)) := by
  rw [readSort, decoded, ok_bind, checkSort, firstViolation_of_found fun _ => sortViolations_found]
  constructor
  · intro requests listed
    have clean := (sortViolations_eq_nil value).mpr ⟨requests, listed⟩
    rw [clean, requestsOf_eq_ok listed]
    rfl
  · intro none
    cases least : Violation.least? (sortViolations value) with
    | none =>
      obtain ⟨requests, listed⟩ := (sortViolations_eq_nil value).mp (least?_eq_none least)
      exact absurd listed (none requests)
    | some violation =>
      refine ⟨violation, ?_⟩
      cases (sortViolations value).any Violation.isTooDeep <;> rfl

/-- A sort list is read exactly if it is decoded to one. -/
theorem readSort_eq_ok : readSort payload = .ok requests ↔
    ∃ value, payloadValue payload = .ok value ∧ IsSortList value requests := by
  constructor
  · intro read
    obtain ⟨value, decoded, -⟩ := bind_eq_ok.mp read
    obtain ⟨listed, refused⟩ := readSort_of_value decoded
    by_cases grammar : ∃ others, IsSortList value others
    · obtain ⟨others, grammar⟩ := grammar
      cases read.symm.trans (listed others grammar)
      exact ⟨value, decoded, grammar⟩
    · obtain ⟨violation, failed⟩ := refused (not_exists.mp grammar)
      cases read.symm.trans failed
  · rintro ⟨value, decoded, grammar⟩
    exact (readSort_of_value decoded).1 requests grammar

/-- What a text is decoded to is not nested too deeply. -/
theorem nesting_le_of_decode {raw : Text} (decoded : QueryParameter.decode raw = .ok value) :
    nesting value ≤ nestingLimit := by
  unfold QueryParameter.decode at decoded
  cases read : Json.read (Percent.decode raw.points) with
  | ok found =>
    simp only [read, Except.ok.injEq] at decoded
    subst decoded
    exact Json.nesting_le_of_read read
  | error fault =>
    simp only [read] at decoded
    cases decoded

theorem isTooDeep_text {raw : Text} : IsTooDeep (.str raw) ↔
    ∃ opened source, QueryParameter.decode raw = .error (.tooDeep opened, source) := by
  constructor
  · intro tooDeep
    cases tooDeep with
    | text decoded => exact ⟨_, _, decoded⟩
    | part out deep =>
      -- a text has no parts
      cases out
      cases deep
  · rintro ⟨opened, source, decoded⟩
    exact .text decoded

theorem payloadValue_text {raw : Text} (decoded : payloadValue (.str raw) = .ok value) :
    QueryParameter.decode raw = .ok value := by
  unfold payloadValue at decoded
  dsimp only at decoded
  split at decoded
  · cases decoded
    assumption
  · cases decoded
  · cases decoded

/-- What has been decoded is too deep exactly if a part of it is out of place that is. -/
theorem isTooDeep_of_value (decoded : payloadValue payload = .ok value) :
    IsTooDeep payload ↔ ∃ part, OutOfPlace value part ∧ nestingLimit < nesting part := by
  cases payload with
  | str raw =>
    have read := payloadValue_text decoded
    have bound := nesting_le_of_decode read
    constructor
    · rw [isTooDeep_text]
      rintro ⟨opened, source, failed⟩
      cases read.symm.trans failed
    · rintro ⟨part, out, deep⟩
      have within := nesting_outOfPlace out
      omega
  | _ =>
    cases decoded
    constructor
    · intro tooDeep
      cases tooDeep with
      | part out deep => exact ⟨_, out, deep⟩
    · rintro ⟨part, out, deep⟩
      exact .part out deep

/-- What cannot be decoded is refused for its form, unless it is a text that is too deep. -/
theorem payloadValue_error (failed : payloadValue payload = .error rejection) :
    rejection.blamesForm = true ∧ ¬ IsTooDeep payload ∨
      rejection = .tooDeep ∧ IsTooDeep payload := by
  unfold payloadValue at failed
  split at failed
  · split at failed
    · cases failed
    · rename_i decoded
      cases failed
      exact .inr ⟨rfl, .text decoded⟩
    · rename_i other decoded
      cases failed
      refine .inl ⟨rfl, fun tooDeep => ?_⟩
      obtain ⟨opened, source, deep⟩ := isTooDeep_text.mp tooDeep
      cases decoded.symm.trans deep
      exact other _ rfl
  · cases failed

/-- What is not read is refused for its form, unless it is nested too deeply. -/
theorem readSort_error (failed : readSort payload = .error rejection) :
    rejection.blamesForm = true ∧ ¬ IsTooDeep payload ∨
      rejection = .tooDeep ∧ IsTooDeep payload := by
  cases decoded : payloadValue payload with
  | error cause =>
    rw [readSort, decoded] at failed
    cases failed
    exact payloadValue_error decoded
  | ok value =>
    obtain ⟨listed, refused⟩ := readSort_of_value decoded
    have other : ∀ requests, ¬ IsSortList value requests := by
      intro requests grammar
      cases failed.symm.trans (listed requests grammar)
    obtain ⟨violation, again⟩ := refused other
    cases failed.symm.trans again
    rw [isTooDeep_of_value decoded, ← tooDeep_iff]
    split
    · rename_i deep
      exact .inr ⟨rfl, deep⟩
    · rename_i shallow
      exact .inl ⟨rfl, shallow⟩

/-- How a payload is read as a sort list: exactly if it is decoded to one it is read, with one
request for each element; exactly if it is nested too deeply it fails for that; and otherwise its
form is what is wrong. -/
structure ReadAsSortList (payload : Value) : Prop where
  read : ∀ requests, readSort payload = .ok requests ↔
    ∃ value, payloadValue payload = .ok value ∧ IsSortList value requests
  deep : readSort payload = .error .tooDeep ↔ IsTooDeep payload
  refused : ∀ rejection, readSort payload = .error rejection → ¬ IsTooDeep payload →
    rejection.blamesForm = true

theorem readAsSortList (payload : Value) : ReadAsSortList payload where
  read _ := readSort_eq_ok
  deep := by
    constructor
    · intro failed
      rcases readSort_error failed with ⟨form, -⟩ | ⟨-, deep⟩
      · cases form
      · exact deep
    · intro deep
      cases read : readSort payload with
      | ok requests =>
        obtain ⟨value, decoded, listed⟩ := readSort_eq_ok.mp read
        obtain ⟨part, out, -⟩ := (isTooDeep_of_value decoded).mp deep
        exact absurd out (not_outOfPlace listed)
      | error rejection =>
        rcases readSort_error read with ⟨-, shallow⟩ | ⟨rfl, -⟩
        · exact absurd deep shallow
        · rfl
  refused rejection failed shallow := by
    rcases readSort_error failed with ⟨form, -⟩ | ⟨-, deep⟩
    · exact form
    · exact absurd deep shallow

end SurveyDesk.Filter
