import SurveyDesk.Proofs.Store.Answering
import SurveyDesk.Proofs.Store.Predicate
import SurveyDesk.Proofs.Survey.Documents
import SurveyDesk.Proofs.Survey.Refinement
import SurveyDesk.Query.Compiler

/-! Listing surveys at a desk that shows a ledger. A list is a page of the caller's own surveys that
are not removed, and every path that surveys may be sorted by leads to a whole number. -/
namespace SurveyDesk.Survey
open Work

/-- The documents of a caller's surveys that are not removed, as they are stored. -/
def listable (desk : Desk) (caller : Caller) : List Value :=
  (documentsIn desk metaCollection).filter fun document =>
    isOwnedBy caller.id document && !saysRemoved document

/-- The order that surveys are listed in: the one that is asked for, if one is. -/
def orderOr (order : SortSpec) : SortSpec := if order.isEmpty then newestFirst else order

/-- A page of surveys as it is answered. -/
def pageAnswered (page : Page) : Value :=
  .object [("count", .int page.total), ("data", .list page.documents)]

variable {desk : Desk} {ledger : Ledger}

theorem listable_eq (shows : Shows desk ledger) (caller : Caller) :
    listable desk caller = (ledger.listedFor caller).map Document.named := by
  rw [listable, documentsIn_metas shows, Ledger.listedFor, List.filter_map, List.map_map]
  refine congrArg₂ _ (funext fun form => (Form.named_metaDocument form).symm) ?_
  refine List.filter_congr fun form _ => ?_
  rw [Function.comp_apply, isOwnedBy_meta, saysRemoved_meta]
  rfl

/-- A list shows a page that is found, and the desk stays as it is. -/
theorem outcome_list_find (number size : Int) (predicate : Value) (order : SortSpec)
    (caller : Caller) (desk : Desk) :
    (list number size predicate order caller).outcome desk =
      (((desk.store.find metaCollection predicate (orderOr order) number size
        (some (listScope caller))).mapError listFault).map pageAnswered, desk) := by
  simp only [list, outcome_bind, outcome_get, outcome_ofOutcome, orderOr]
  generalize Except.mapError listFault _ = page
  cases page <;> rfl

/-- Where surveys are found within the scope of a list, they are found among the caller's own. -/
theorem find_metas (shows : Shows desk ledger) (predicate : Value) (sort : SortSpec)
    (number size : Int) (caller : Caller) :
    desk.store.find metaCollection predicate sort number size (some (listScope caller)) =
      Store.pageOf predicate sort number size none (ledger.listedFor caller) := by
  rw [Store.find_eq_pageOf, shows.metas, Keyed.contents_byName, Store.pageOf,
    Store.hits_scoped (holds_listScope · caller)]
  rfl

/-- The paths that surveys may be sorted by lead to whole numbers. -/
theorem sortsNumbers_metas {order : SortSpec}
    (allowed : ∀ entry ∈ order, entry.1 ∈ Query.Compiler.surveySortFields) (forms : List Form) :
    order.SortsNumbers (forms.map Form.metaDocument) := by
  rintro path member document found
  obtain ⟨entry, listed, rfl⟩ := List.mem_map.mp member
  obtain ⟨form, -, rfl⟩ := List.mem_map.mp found
  have path := allowed entry listed
  simp only [Query.Compiler.surveySortFields, List.mem_cons, List.not_mem_nil, or_false] at path
  unfold SortSpec.keyOf
  rw [Form.named_metaDocument]
  rcases path with created | updated | changed
  · exact ⟨form.created, by rw [created]; rfl⟩
  · exact ⟨form.updated, by rw [updated]; rfl⟩
  · exact ⟨form.current.date, by rw [changed]; rfl⟩

theorem orderOr_allowed {order : SortSpec}
    (allowed : ∀ entry ∈ order, entry.1 ∈ Query.Compiler.surveySortFields) :
    ∀ entry ∈ orderOr order, entry.1 ∈ Query.Compiler.surveySortFields := by
  unfold orderOr
  split
  · decide
  · exact allowed

/-- A predicate without entries stops for nothing. -/
theorem firstFault_unfiltered (documents : List Value) :
    Store.firstFault (.object []) documents = none := by
  induction documents with
  | nil => rfl
  | cons document rest ih =>
    rw [Store.firstFault, Predicate.holds_object, Predicate.holdsAll_nil]
    exact ih

/-- Surveys are found in an order that is allowed unless the predicate stops for one of them. -/
theorem find_firstFault (shows : Shows desk ledger) (number size : Int) (predicate : Value)
    {order : SortSpec} (allowed : ∀ entry ∈ order, entry.1 ∈ Query.Compiler.surveySortFields)
    (caller : Caller) :
    match Store.firstFault predicate (listable desk caller) with
    | none => ∃ page, desk.store.find metaCollection predicate (orderOr order) number size
        (some (listScope caller)) = .ok page
    | some fault => desk.store.find metaCollection predicate (orderOr order) number size
        (some (listScope caller)) = .error fault := by
  have sorted := sortsNumbers_metas (orderOr_allowed allowed)
    (ledger.forms.filter (·.isListedFor caller))
  have paged := Store.pageOf_eq_firstFault sorted predicate number size
  rw [listable_eq shows, find_metas shows]
  split at paged
  · rename_i first
    simp only [Ledger.listedFor, first, paged]
  · rename_i first
    simp only [Ledger.listedFor, first, paged]

/-- A list of surveys in an order that is allowed is answered unless the predicate stops for one of
them. -/
theorem outcome_list_firstFault (shows : Shows desk ledger) (number size : Int)
    (predicate : Value) {order : SortSpec}
    (allowed : ∀ entry ∈ order, entry.1 ∈ Query.Compiler.surveySortFields) (caller : Caller) :
    match Store.firstFault predicate (listable desk caller) with
    | none => ∃ page, (list number size predicate order caller).outcome desk =
        (.ok (pageAnswered page), desk)
    | some fault => (list number size predicate order caller).outcome desk =
        (.error (listFault fault), desk) := by
  have found := find_firstFault shows number size predicate allowed caller
  rw [outcome_list_find]
  split at found
  · obtain ⟨page, found⟩ := found
    exact ⟨page, by rw [found]; rfl⟩
  · rw [found]
    rfl

end SurveyDesk.Survey
