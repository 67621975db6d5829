import SurveyDesk.Proofs.Filter.Shape
import SurveyDesk.Proofs.Store.Reordering
import SurveyDesk.Proofs.Survey.Pages

/-! Lists that split. A condition that asks for a value and one that asks for any other are both
decided for every survey, since every path that a filter may name leads somewhere in every meta
document: of the two lists each of the caller's surveys is in exactly one. -/
namespace SurveyDesk.Survey
open Work
open Query (Compiler)
open SurveyDesk.Filter (Combinator Item isScalar)

/-- A filter of one condition. -/
def conditionOn (combinator : Combinator) (field : Text) (comparator value : Value) : List Item :=
  [.group combinator [.compare (.str field) comparator (.scalar value)]]

/-- The predicate of a filter of one condition: what is expected of the field, as an entry or as the
only alternative. -/
def expecting (combinator : Combinator) (field : Text) (expected : Value) : Entries :=
  match combinator with
  | .every => [(field, expected)]
  | .either => [(Predicate.orKey, .list [.object [(field, expected)]])]

/-- What a comparator expects of a field, where it asks for a value or for any other. -/
inductive Asks (value : Value) : Value → Value → Prop
  | equal : Asks value .null value
  | different : Asks value (.str "$ne") (Predicate.Operator.notEqual.fragment value)

theorem compileFilter_conditionOn (combinator : Combinator)
    (asks : Asks value comparator expected) (allowed : field ∈ Compiler.surveyFilterFields) :
    Compiler.standard.compileFilter (conditionOn combinator field comparator value) =
      .ok (expecting combinator field expected) := by
  simp only [Compiler.surveyFilterFields, List.mem_cons, List.not_mem_nil, or_false] at allowed
  cases asks <;> cases combinator <;> rcases allowed with rfl | rfl | rfl | rfl <;> rfl

theorem filterFields_not_alternatives (allowed : field ∈ Compiler.surveyFilterFields) :
    field ≠ Predicate.orKey := by
  rintro rfl
  revert allowed
  decide

theorem holds_expecting (apart : field ≠ Predicate.orKey) (combinator : Combinator)
    (document expected : Value) :
    Predicate.holds document (.object (expecting combinator field expected)) =
      Predicate.expectedHolds (document.at? field) expected := by
  have alone : Predicate.holds document (.object [(field, expected)]) =
      Predicate.expectedHolds (document.at? field) expected := by
    rw [Predicate.holds_object, Predicate.holdsAll_singleton, Predicate.entryHolds, if_neg apart]
  cases combinator with
  | every => exact alone
  | either =>
    rw [expecting, Predicate.holds_alternatives, Predicate.holdsAny_singleton]
    exact alone

/-- Every path that a filter may name leads somewhere in every meta document. -/
theorem at?_filterFields (allowed : field ∈ Compiler.surveyFilterFields) (form : Form) :
    ∃ actual, (Value.object form.metaEntries).at? field = some actual := by
  simp only [Compiler.surveyFilterFields, List.mem_cons, List.not_mem_nil, or_false] at allowed
  rcases allowed with rfl | rfl | rfl | rfl
  · exact ⟨form.title, rfl⟩
  · exact ⟨form.remark, rfl⟩
  · exact ⟨form.questionType, rfl⟩
  · exact ⟨.str form.current.status.name, rfl⟩

/-- Whether what is at a path of a document equals a value. -/
def hasAt (field : Text) (value document : Value) : Bool :=
  (document.at? field).any (·.equals value)

theorem isKey_of_isScalar (plain : isScalar value) : value.isKey = true := by
  cases value with
  | list _ | object _ => cases plain
  | _ => rfl

theorem holds_equal (allowed : field ∈ Compiler.surveyFilterFields) (plain : isScalar value)
    (combinator : Combinator) (form : Form) :
    Predicate.holds (.object form.metaEntries) (.object (expecting combinator field value)) =
      .ok (hasAt field value (.object form.metaEntries)) := by
  obtain ⟨actual, present⟩ := at?_filterFields allowed form
  rw [holds_expecting (filterFields_not_alternatives allowed), hasAt, present,
    Store.expectedHolds_key (isKey_of_isScalar plain), Option.any_some]

theorem holds_different (allowed : field ∈ Compiler.surveyFilterFields) (value : Value)
    (combinator : Combinator) (form : Form) :
    Predicate.holds (.object form.metaEntries)
        (.object (expecting combinator field (Predicate.Operator.notEqual.fragment value))) =
      .ok (!hasAt field value (.object form.metaEntries)) := by
  obtain ⟨actual, present⟩ := at?_filterFields allowed form
  rw [holds_expecting (filterFields_not_alternatives allowed), hasAt, present,
    Predicate.expectedHolds_fragment, Option.any_some]
  rfl

variable {desk : Desk} {ledger : Ledger}

theorem listable_forms (shows : Shows desk ledger) (caller : Caller) :
    listable desk caller =
      (ledger.forms.filter (·.isListedFor caller)).map fun form => .object form.metaEntries := by
  rw [listable_eq shows, Ledger.listedFor, List.map_map]
  exact List.map_congr_left fun form _ => Form.named_metaDocument form

/-- A predicate that is decided for every meta document lists, without pages, exactly the surveys of
the caller that it holds for. -/
theorem list_decided (shows : Shows desk ledger) {predicate : Value} (within : Value → Bool)
    (decided : ∀ form : Form, Predicate.holds (.object form.metaEntries) predicate =
      .ok (within (.object form.metaEntries)))
    {order : SortSpec} (allowed : ∀ entry ∈ order, entry.1 ∈ Compiler.surveySortFields)
    (number : Int) {size : Int} (unpaged : size ≤ 0) (caller : Caller) :
    ∃ page, (list number size predicate order caller).outcome desk =
        (.ok (pageAnswered page), desk) ∧
      page.total = page.documents.length ∧
      page.documents.Perm ((listable desk caller).filter within) := by
  let found := (ledger.forms.filter (·.isListedFor caller)).filter
    fun form => within (.object form.metaEntries)
  have hit : Store.hits none predicate (ledger.listedFor caller) =
      .ok (found.map Form.metaDocument) :=
    Store.hits_decided (fun form => Form.named_metaDocument form ▸ decided form) _
  obtain ⟨sorted, ordered⟩ := (sortsNumbers_metas (orderOr_allowed allowed) found).answers
  have perm : (sorted.map Document.shown).Perm ((listable desk caller).filter within) := by
    refine ((SortSpec.sort_perm ordered).map Document.shown).trans (.of_eq ?_)
    rw [listable_forms shows, List.filter_map, List.map_map]
    exact List.map_congr_left fun form _ => Form.shown_metaDocument form
  have paged : Store.paged sorted number size = sorted := if_pos unpaged
  refine ⟨⟨sorted.length, sorted.map Document.shown⟩, ?_, (List.length_map _).symm, perm⟩
  rw [outcome_list_find, find_metas shows, Store.pageOf, hit, ok_bind, ordered, ok_bind, paged]
  rfl

/-- Of the lists for a value and for any other, without pages, each of the caller's surveys that are
not removed is in exactly one; nothing else is in either, and together they count as many surveys as
the list without a filter. -/
theorem lists_split (reached : Reachable Op.any desk) (caller : Caller)
    (named : field ∈ Compiler.surveyFilterFields) (plain : isScalar value)
    (combinator : Combinator) {order : SortSpec}
    (allowed : ∀ entry ∈ order, entry.1 ∈ Compiler.surveySortFields) (number : Int) {size : Int}
    (unpaged : size ≤ 0) :
    ∃ equal different : Entries, ∃ same other all : Page,
      Compiler.standard.compileFilter (conditionOn combinator field .null value) = .ok equal ∧
      Compiler.standard.compileFilter (conditionOn combinator field (.str "$ne") value) =
        .ok different ∧
      (list number size (.object equal) order caller).outcome desk =
        (.ok (pageAnswered same), desk) ∧
      (list number size (.object different) order caller).outcome desk =
        (.ok (pageAnswered other), desk) ∧
      (list number size (.object []) order caller).outcome desk =
        (.ok (pageAnswered all), desk) ∧
      (∀ document ∈ listable desk caller,
        Xor (document ∈ same.documents) (document ∈ other.documents)) ∧
      (same.documents ++ other.documents).Perm (listable desk caller) ∧
      (listable desk caller).Nodup ∧
      same.total = same.documents.length ∧ other.total = other.documents.length ∧
      same.total + other.total = all.total := by
  obtain ⟨ledger, shows, sound⟩ := reached.shows
  have distinct : (listable desk caller).Nodup := (nodup_metas shows sound).filter _
  obtain ⟨same, sameListed, sameTotal, samePerm⟩ :=
    list_decided shows (hasAt field value) (holds_equal named plain combinator) allowed number
      unpaged caller
  obtain ⟨other, otherListed, otherTotal, otherPerm⟩ :=
    list_decided shows (fun document => !hasAt field value document)
      (holds_different named value combinator) allowed number unpaged caller
  obtain ⟨all, allListed, allTotal, allPerm⟩ :=
    list_decided shows (fun _ => true)
      (fun form => by rw [Predicate.holds_object, Predicate.holdsAll_nil]) allowed number unpaged
      caller
  have together : (same.documents ++ other.documents).Perm (listable desk caller) :=
    (samePerm.append otherPerm).trans (List.filter_append_perm _ _)
  refine ⟨_, _, same, other, all, compileFilter_conditionOn combinator .equal named,
    compileFilter_conditionOn combinator .different named, sameListed, otherListed, allListed,
    fun document member => ?_, together, distinct, sameTotal, otherTotal, ?_⟩
  · rw [samePerm.mem_iff, otherPerm.mem_iff, List.mem_filter, List.mem_filter]
    cases hasAt field value document <;> simp [member, Xor]
  · rw [sameTotal, otherTotal, allTotal, ← List.length_append, together.length_eq,
      allPerm.length_eq, List.filter_true]

private def reader : Caller := ⟨"7", "rea"⟩

/-- A desk with two surveys of one user, of which one has the title "tea". -/
private def teaDesk : Desk :=
  (Op.add (.str "milk") .null .null reader .null).after
    ((Op.add (.str "tea") .null .null reader .null).after (Desk.opened 0))

/-- One of two surveys has a title and the other another one. -/
theorem lists_split_teaDesk :
    Reachable Op.any teaDesk ∧ ("title" : Text) ∈ Compiler.surveyFilterFields ∧
    isScalar (.str "tea") ∧
    ∃ same other : Page,
      (list 1 0 (.object [("title", .str "tea")]) [] reader).outcome teaDesk =
        (.ok (pageAnswered same), teaDesk) ∧
      (list 1 0 (.object [("title", Predicate.Operator.notEqual.fragment (.str "tea"))]) []
        reader).outcome teaDesk = (.ok (pageAnswered other), teaDesk) ∧
      (∀ document ∈ listable teaDesk reader,
        Xor (document ∈ same.documents) (document ∈ other.documents)) ∧
      (same.documents ++ other.documents).length = 2 := by
  have reached : Reachable Op.any teaDesk := .step (.step (.opened 0) _ trivial) _ trivial
  have named : ("title" : Text) ∈ Compiler.surveyFilterFields := by decide
  obtain ⟨equal, different, same, other, -, compiled, complement, sameListed, otherListed, -,
    either, together, -⟩ := lists_split reached reader named (show isScalar (.str "tea") from rfl)
      .every (List.forall_mem_nil _) 1 (Int.le_refl 0)
  rw [compileFilter_conditionOn .every .equal named] at compiled
  rw [compileFilter_conditionOn .every .different named] at complement
  cases compiled
  cases complement
  refine ⟨reached, named, rfl, same, other, sameListed, otherListed, either, ?_⟩
  rw [together.length_eq]
  decide +kernel

end SurveyDesk.Survey
