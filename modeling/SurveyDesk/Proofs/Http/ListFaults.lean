import SurveyDesk.Proofs.Http.FailedRequests
import SurveyDesk.Proofs.Query.Evaluation
import SurveyDesk.Proofs.Survey.Listing

/-! How listing surveys fails. Surveys are sorted by whole numbers, which can always be compared,
and a compiled filter stops at nothing but a pattern that cannot be used. Callers are told of such a
pattern if it is malformed. A pattern that is refused for another reason, such as a repetition that
is too large, comes out of the list as the fault that it is. -/
namespace SurveyDesk.Query
open SurveyDesk.Filter (Item SortRequest)

theorem allowed?_mem {fields : List Text} {value : Value}
    (allowed : allowed? fields value = .ok (some field)) : field ∈ fields := by
  unfold allowed? at allowed
  split at allowed
  · split at allowed
    · rename_i listed
      cases allowed
      simpa using listed
    · cases allowed
  all_goals cases allowed

/-- A compiler sorts by fields that it allows. -/
theorem compileSort_fields {compiler : Compiler} {requests : List SortRequest} {order : Entries}
    (answered : compiler.compileSort requests = .ok order) :
    ∀ entry ∈ order, entry.1 ∈ compiler.sortFields := by
  unfold Compiler.compileSort at answered
  have start : ∀ entry ∈ ([] : Entries), entry.1 ∈ compiler.sortFields := nofun
  generalize ([] : Entries) = compiled at answered start
  induction requests generalizing compiled with
  | nil =>
    cases answered
    exact start
  | cons request rest ih =>
    rw [List.foldlM_cons] at answered
    obtain ⟨between, step, answered⟩ := bind_eq_ok.mp answered
    obtain ⟨named, looked, step⟩ := bind_eq_ok.mp step
    refine ih between answered ?_
    cases named with
    | none =>
      cases step
      exact start
    | some field =>
      cases step
      intro entry member
      rcases Entries.mem_put member with rfl | earlier
      · exact allowed?_mem looked
      · exact start entry earlier

/-- Sort requests with texts as their fields are compiled. -/
theorem compileSort_answers (compiler : Compiler) {requests : List SortRequest}
    (texts : ∀ request ∈ requests, Filter.isText request.field) :
    ∃ order, compiler.compileSort requests = .ok order := by
  unfold Compiler.compileSort
  generalize ([] : Entries) = compiled
  induction requests generalizing compiled with
  | nil => exact ⟨compiled, rfl⟩
  | cons request rest ih =>
    obtain ⟨first, others⟩ := List.forall_mem_cons.mp texts
    obtain ⟨field, direction⟩ := request
    cases field with
    | str name =>
      rw [List.foldlM_cons]
      by_cases listed : compiler.sortFields.contains name = true
      · simp only [allowed?, if_pos listed, ok_bind]
        exact ih others _
      · simp only [allowed?, if_neg listed, ok_bind]
        exact ih others _
    | _ => cases first

/-- A compiled filter stops at nothing but one of its patterns that cannot be used. -/
theorem compileFilter_stops (read : Filter.readFilter payload = .ok items)
    (compiled : Compiler.standard.compileFilter items = .ok predicate)
    (stopped : Predicate.holds document (.object predicate) = .error fault) :
    ∃ pattern ∈ Filter.itemPatterns Compiler.surveyFilterFields items, ∃ text cause,
      Predicate.found pattern text = .error fault ∧ fault = .badPattern pattern cause := by
  have apart : Predicate.orKey ∉ Compiler.standard.filterFields := by decide
  have agrees := list_agrees apart (by decide) (Filter.itemsTyped_of_readFilter read) document
  rw [← compileFilter_eq apart compiled, stopped] at agrees
  obtain ⟨pattern, member, text, failed⟩ := agrees
  suffices ∃ cause, fault = .badPattern pattern cause by
    obtain ⟨cause, same⟩ := this
    exact ⟨pattern, member, text, cause, failed, same⟩
  unfold Predicate.found at failed
  split at failed
  · rename_i searched _
    cases sought : searched.occursIn text with
    | error cause =>
      rw [sought] at failed
      cases failed
      exact ⟨cause, rfl⟩
    | ok answer =>
      rw [sought] at failed
      cases failed
  · cases failed
    exact ⟨_, rfl⟩

end SurveyDesk.Query

namespace SurveyDesk.Http

open Query (Compiler)
open Survey (Form Ledger Shows listable listFault metaCollection sortsNumbers_metas)

/-- Whether a fault is a refusal, which callers are told about. -/
def IsRefusal (fault : Fault) : Prop := ∃ code message, fault = .refused code message

variable {setup : Setup} {desk : Desk} {ledger : Ledger}

/-- What a refused list reports is a refusal exactly if the pattern is malformed. -/
theorem isRefusal_listFault (pattern : Value) (cause : Pattern.Fault) :
    IsRefusal (listFault (.badPattern pattern cause)) ↔
      ∃ what position, cause = .malformed what position := by
  cases cause with
  | malformed what position => exact ⟨fun _ => ⟨what, position, rfl⟩, fun _ => ⟨_, _, rfl⟩⟩
  | _ => exact ⟨nofun, nofun⟩

/-- A list of surveys by a filter that was read is answered unless the filter stops for one of the
caller's surveys. It stops only at one of its patterns, and the list then refuses exactly the
patterns that are malformed: the fault of any other pattern that cannot be used comes out as it is.
Whatever is asked for, the surveys can be sorted by it, and the desk stays as it is. -/
theorem list_stops_at_patterns_only (visited : Visited setup desk)
    (read : Filter.readFilter payload = .ok items)
    (compiled : Compiler.standard.compileFilter items = .ok predicate)
    (ordered : Compiler.standard.compileSort requests = .ok order) (number size : Int)
    (caller : Caller) :
    (∀ path ∈ Compiler.surveySortFields, SortSpec.comparable
      ((Keyed.contents (desk.store.collection metaCollection)).map (SortSpec.keyOf path))) ∧
    match Store.firstFault (.object predicate) (listable desk caller) with
    | none => ∃ answer, (Survey.list number size (.object predicate) order caller).outcome desk =
        (.ok answer, desk)
    | some fault => (Survey.list number size (.object predicate) order caller).outcome desk =
        (.error (listFault fault), desk) ∧
      ∃ pattern ∈ Filter.itemPatterns Compiler.surveyFilterFields items, ∃ text cause,
        Predicate.found pattern text = .error fault ∧ fault = .badPattern pattern cause ∧
        (IsRefusal (listFault fault) ↔ ∃ what position, cause = .malformed what position) := by
  obtain ⟨ledger, shows, -, -⟩ := visited.shows
  refine ⟨fun path member => ?_, ?_⟩
  · have single : ∀ entry ∈ ([(path, .null)] : SortSpec), entry.1 ∈ Compiler.surveySortFields := by
      intro entry here
      rwa [List.mem_singleton.mp here]
    have numbers := sortsNumbers_metas single ledger.forms
    rw [shows.metas, Keyed.contents_byName]
    exact numbers.comparable List.mem_cons_self
  · have allowed := Query.compileSort_fields ordered
    have listed := Survey.outcome_list_firstFault shows number size (.object predicate) allowed
      caller
    cases first : Store.firstFault (.object predicate) (listable desk caller) with
    | none =>
      rw [first] at listed
      obtain ⟨page, answered⟩ := listed
      exact ⟨_, answered⟩
    | some fault =>
      rw [first] at listed
      obtain ⟨document, -, stopped⟩ := Store.of_firstFault first
      obtain ⟨pattern, member, text, cause, failed, rfl⟩ :=
        Query.compileFilter_stops read compiled stopped
      exact ⟨listed, pattern, member, text, cause, failed, rfl, isRefusal_listFault pattern cause⟩

/-! ## A repetition that is too large -/

/-- A filter that searches titles for a pattern, as it is sent. -/
private def titled (pattern : String) : Value :=
  .list [.object [("condition", .list [.object [("field", .str "title"),
    ("comparator", .str "$regex"), ("value", .str pattern)]])]]

private def titledItems (pattern : String) : List Filter.Item :=
  [.group .every [.compare (.str "title") (.str "$regex") (.scalar (.str pattern))]]

private def titledPredicate (pattern : String) : Entries :=
  [("title", Predicate.Operator.regexMatch.fragment (.str pattern))]

private theorem read_titled (pattern : String) :
    Filter.readFilter (titled pattern) = .ok (titledItems pattern) := rfl

private theorem compiled_titled (pattern : String) :
    Compiler.standard.compileFilter (titledItems pattern) = .ok (titledPredicate pattern) := rfl

private theorem listable_idasFirstDesk :
    listable idasFirstDesk ida = [.object idasFirstForm.metaEntries] := by
  rw [Survey.listable_eq shows_idasFirstDesk]
  rfl

/-- A pattern that cannot be used in the title of Ida's survey stops her list. -/
private theorem firstFault_titled {pattern : String} {fault : Fault}
    (unusable : Predicate.found (.str pattern) "t" = .error fault) :
    Store.firstFault (.object (titledPredicate pattern)) (listable idasFirstDesk ida) =
      some fault := by
  have plain : Store.PlainKey "title" := ⟨by decide, by decide⟩
  have title : (Value.object idasFirstForm.metaEntries).get? "title" = some (.str "t") := rfl
  have stopped : Predicate.holds (.object idasFirstForm.metaEntries)
      (.object (titledPredicate pattern)) = .error fault := by
    rw [titledPredicate, Store.holds_single plain, title, Predicate.expectedHolds_fragment]
    exact unusable
  rw [listable_idasFirstDesk, Store.firstFault, stopped]

/-- Why a pattern is not used, if its text alone tells. -/
private def refusalOf? (pattern : Text) : Option Pattern.Fault :=
  match Pattern.ofText pattern with
  | .error cause => some cause
  | .ok _ => none

/-- Five hundred groups inside one another are more than there is room for. -/
example : refusalOf? (.ofPoints ((List.replicate 500 '(' ++ List.replicate 500 ')').map .char)) =
    some .nestedTooDeeply := by
  rw [refusalOf?, Pattern.ofText, Text.points_ofPoints]
  decide +kernel

private theorem found_refused {pattern : String} {cause : Pattern.Fault}
    (refused : refusalOf? pattern = some cause) (text : Text) :
    Predicate.found (.str pattern) text = .error (.badPattern (.str pattern) cause) := by
  unfold refusalOf? at refused
  unfold Predicate.found
  rw [Value.asText]
  split at refused
  · rename_i stopped
    cases refused
    rw [stopped]
  · cases refused

/-- The repetition whose number is too large. -/
private def tooLarge : String := "a\x7b4294967295\x7d"

/-- Ida lists her survey by a title with a repetition that is too large, and is not told that her
filter is wrong. -/
theorem list_fails_on_large_repetition :
    Visited unshared idasFirstDesk ∧
    Filter.readFilter (titled tooLarge) = .ok (titledItems tooLarge) ∧
    Compiler.standard.compileFilter (titledItems tooLarge) = .ok (titledPredicate tooLarge) ∧
    Filter.readSort (.list []) = .ok [] ∧ Compiler.standard.compileSort [] = .ok [] ∧
    ∃ fault, (Survey.list 1 10 (.object (titledPredicate tooLarge)) [] ida).outcome idasFirstDesk =
        (.error fault, idasFirstDesk) ∧ ¬ IsRefusal fault := by
  have refused : refusalOf? tooLarge = some .repetitionTooLarge := by decide +kernel
  have first := firstFault_titled (found_refused refused "t")
  have unsorted : ∀ entry ∈ ([] : SortSpec), entry.1 ∈ Compiler.surveySortFields := nofun
  have listed := Survey.outcome_list_firstFault shows_idasFirstDesk 1 10
    (.object (titledPredicate tooLarge)) unsorted ida
  rw [first] at listed
  exact ⟨visited_idasFirstDesk, read_titled _, compiled_titled _, rfl, rfl, _, listed, nofun⟩

/-- A group without an end is malformed, and Ida's list is refused. -/
theorem list_stops_at_patterns_only_openGroup :
    Visited unshared idasFirstDesk ∧
    Filter.readFilter (titled "(") = .ok (titledItems "(") ∧
    Compiler.standard.compileFilter (titledItems "(") = .ok (titledPredicate "(") ∧
    Compiler.standard.compileSort [] = .ok [] ∧
    (Survey.list 1 10 (.object (titledPredicate "(")) [] ida).outcome idasFirstDesk =
      (.error (.refused .badParameters "filter format is not valid"), idasFirstDesk) := by
  have refused : refusalOf? "(" = some (.malformed .unterminatedGroup (some 0)) := by
    decide +kernel
  have ordered : Compiler.standard.compileSort [] = .ok [] := rfl
  obtain ⟨-, stops⟩ := list_stops_at_patterns_only visited_idasFirstDesk (read_titled "(")
    (compiled_titled "(") ordered 1 10 ida
  rw [firstFault_titled (found_refused refused "t")] at stops
  exact ⟨visited_idasFirstDesk, read_titled _, compiled_titled _, ordered, stops.1⟩

end SurveyDesk.Http
