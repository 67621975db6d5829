import Mathlib.Data.List.Perm.Subperm
import SurveyDesk.Proofs.Store.Find

/-! What a page can show. Sorting puts the documents that were found into another order and a page
is a stretch of them, so a page repeats no document more often than it was found and the total is
the number of documents that were found, whatever the order, the page and its size. What a page
shows of documents depends on no more of them than what the predicate and the order look at. -/
namespace SurveyDesk

theorem SortSpec.sort_perm {spec : SortSpec} {documents sorted : List Document}
    (answered : SortSpec.sort spec documents = .ok sorted) : sorted.Perm documents := by
  induction spec generalizing sorted with
  | nil =>
    cases answered
    exact .refl _
  | cons direction rest ih =>
    obtain ⟨path, direction⟩ := direction
    obtain ⟨behind, earlier, answered⟩ := bind_eq_ok.mp answered
    unfold SortSpec.sortBy at answered
    split at answered
    · cases answered
      exact (List.mergeSort_perm behind _).trans (ih earlier)
    · cases answered

variable {α : Type} {left right : α → Document}

namespace Store

/-- The items that a page shows. -/
def pageItems (items : List α) (number size : Int) : List α :=
  if size ≤ 0 then items
  else (items.drop ((max (number - 1) 0) * size).toNat).take size.toNat

theorem pageItems_map {β : Type} (change : α → β) (items : List α) (number size : Int) :
    pageItems (items.map change) number size = (pageItems items number size).map change := by
  unfold pageItems
  split
  · rfl
  · rw [List.map_take, List.map_drop]

theorem paged_map (document : α → Document) (items : List α) (number size : Int) :
    paged (items.map document) number size = (pageItems items number size).map document :=
  pageItems_map document items number size

theorem pageItems_sublist (items : List α) (number size : Int) :
    (pageItems items number size).Sublist items := by
  unfold pageItems
  split
  · exact .refl _
  · exact (List.take_sublist _ _).trans (List.drop_sublist _ _)

/-- A page shows documents that were found, each at most as often as it was found, and counts all
that were found. -/
theorem pageOf_ok {predicate : Value} {sort : SortSpec} {scope : Option Value}
    {documents : List Document} {page : Page}
    (answered : pageOf predicate sort number size scope documents = .ok page) :
    ∃ found, hits scope predicate documents = .ok found ∧ page.total = found.length ∧
      page.documents.Subperm (found.map Document.shown) := by
  obtain ⟨found, hit, answered⟩ := bind_eq_ok.mp answered
  obtain ⟨sorted, ordered, answered⟩ := bind_eq_ok.mp answered
  cases answered
  have perm := SortSpec.sort_perm ordered
  refine ⟨found, hit, perm.length_eq, ?_⟩
  exact ((pageItems_sublist sorted number size).map Document.shown).subperm.trans
    (perm.map Document.shown).subperm

end Store
end SurveyDesk
