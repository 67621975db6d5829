import SurveyDesk.Proofs.Store.Pagination
import SurveyDesk.Proofs.Store.Sorting

/-! What is found from the newest on. Where every document has a date, finding by falling dates puts
what is found in one order: the newest first, and what is of one date as it was stored. A page is a
stretch of that order, whatever its number and its size. -/
namespace SurveyDesk

/-- Items from the newest to the oldest: the same items, none later than one before it, and those of
one date in the order in which they were. -/
structure NewestFirst {α : Type} (date : α → Int) (items sorted : List α) : Prop where
  perm : sorted.Perm items
  order : sorted.Pairwise fun first second => date second ≤ date first
  stable : ∀ day, sorted.filter (fun item => date item = day) =
    items.filter fun item => date item = day

variable {α : Type} {date : α → Int}

/-- Items in the order of falling dates. -/
def newestOf (date : α → Int) (items : List α) : List α := byRank (OrderDual.toDual ∘ date) items

theorem newestFirst_newestOf (date : α → Int) (items : List α) :
    NewestFirst date items (newestOf date items) where
  perm := byRank_perm _ items
  order := byRank_sorted (OrderDual.toDual ∘ date) items
  stable day := filter_byRank (OrderDual.toDual ∘ date) items (OrderDual.toDual day)

theorem length_newestOf (date : α → Int) (items : List α) :
    (newestOf date items).length = items.length :=
  (newestFirst_newestOf date items).perm.length_eq

namespace Store

variable {document : α → Document} {path : Text}

/-- Documents with dates are sorted as their items are. -/
theorem sort_newest (dated : ∀ item, (document item).named.at? path = some (.int (date item)))
    (items : List α) : SortSpec.sort [(path, .int (-1))] (items.map document) =
      .ok ((newestOf date items).map document) := by
  have kind : SortSpec.OneKind path (items.map document) := by
    refine .inl (List.forall_mem_map.mpr fun item _ => .inr ⟨date item, dated item⟩)
  have ranks (first second : α) :
      decide (OrderDual.toDual (date first) ≤ OrderDual.toDual (date second)) =
        decide (OrderDual.toDual (SortSpec.rankAt path (document first)) ≤
          OrderDual.toDual (SortSpec.rankAt path (document second))) := by
    simp [SortSpec.rankAt, dated, SortSpec.rankOf]
  have sorted : (newestOf date items).map document =
      byRank (OrderDual.toDual ∘ SortSpec.rankAt path) (items.map document) :=
    List.map_mergeSort fun first _ second _ => ranks first second
  rw [SortSpec.sort, SortSpec.sort, ok_bind, SortSpec.sortBy_descending kind, sorted]

/-- A page of what is found by falling dates is a stretch of the items that are within the
predicate, from the newest on. -/
theorem pageOf_newest {predicate : Value} {within : α → Bool}
    (decided : ∀ item, Predicate.holds (document item).named predicate = .ok (within item))
    (dated : ∀ item, (document item).named.at? path = some (.int (date item)))
    (items : List α) (number size : Int) :
    pageOf predicate [(path, .int (-1))] number size none (items.map document) =
      .ok ⟨(items.filter within).length,
        (pageItems (newestOf date (items.filter within)) number size).map fun item =>
          (document item).shown⟩ := by
  rw [pageOf, hits_decided decided, ok_bind, sort_newest dated, ok_bind, paged_map,
    List.length_map, length_newestOf, List.map_map]
  rfl

end Store
end SurveyDesk
