import Mathlib.Algebra.Order.Floor.Div
import SurveyDesk.Proofs.Store.Page

/-! Pages partition what is found. A page is a stretch of the documents that are found and sorted
without pages, and stretches of one length that follow one another make up the whole. -/
namespace SurveyDesk

/-- Pages of a size partition entries. The pages that the entries fill make up all of them, one
after another; every later page is empty, and every page before the first is the first. -/
structure Partitions {α : Type} (page : Int → List α) (size : Nat) (entries : List α) : Prop where
  bounded : ∀ number, (page number).length ≤ size
  whole : (List.range (entries.length ⌈/⌉ size)).flatMap (fun place : Nat => page (place + 1)) =
    entries
  later : ∀ number : Int, ((entries.length ⌈/⌉ size : Nat) : Int) < number → page number = []
  earlier : ∀ number ≤ 1, page number = page 1

namespace Store

variable {α : Type}

/-- A page by its place among the pages, which are counted from zero. -/
theorem pageItems_place (items : List α) {size : Nat} (positive : 0 < size) (place : Nat) :
    pageItems items (place + 1) size = (items.drop (place * size)).take size := by
  have start : (max ((place : Int) + 1 - 1) 0 * size).toNat = place * size := by
    rw [Int.add_sub_cancel, Int.max_eq_left (Int.natCast_nonneg place)]
    exact congrArg Int.toNat (Int.natCast_mul place size).symm
  rw [pageItems, if_neg (by omega), start, Int.toNat_natCast]

/-- The first pages make up the first entries. -/
theorem flatMap_pages (items : List α) (size count : Nat) :
    ((List.range count).flatMap fun place => (items.drop (place * size)).take size) =
      items.take (count * size) := by
  induction count with
  | zero => simp
  | succ count ih =>
    rw [List.range_succ, List.flatMap_append, ih, List.flatMap_singleton, Nat.succ_mul,
      List.take_add]

/-- A page of a number that is out of range below is the first. -/
theorem pageItems_max (items : List α) (number size : Int) :
    pageItems items (max number 1) size = pageItems items number size := by
  have start : max (max number 1 - 1) 0 = max (number - 1) 0 := by omega
  rw [pageItems, pageItems, start]

theorem partitions_pageItems (items : List α) {size : Nat} (positive : 0 < size) :
    Partitions (fun number => pageItems items number size) size items where
  bounded number := by
    rw [pageItems, if_neg (by omega), Int.toNat_natCast]
    exact List.length_take_le _ _
  whole := by
    have each : (fun place : Nat => pageItems items (place + 1) size) =
        fun place => (items.drop (place * size)).take size :=
      funext (pageItems_place items positive)
    have all : items.length ≤ items.length ⌈/⌉ size * size := by
      rw [Nat.mul_comm]
      exact le_smul_ceilDiv positive
    rw [each, flatMap_pages, List.take_of_length_le all]
  later number late := by
    obtain ⟨place, rfl⟩ : ∃ place : Nat, number = place + 1 := ⟨(number - 1).toNat, by omega⟩
    have behind : items.length ≤ size * place :=
      (ceilDiv_le_iff_le_mul positive).mp (by omega)
    rw [Nat.mul_comm] at behind
    rw [pageItems_place items positive, List.drop_of_length_le behind, List.take_nil]
  earlier number low := by
    rw [← pageItems_max items number, Int.max_eq_right low]

/-! ## Pages of documents -/

variable {predicate : Value} {sort : SortSpec} {scope : Option Value} {documents : List Document}

/-- A page is a stretch of what is found without pages. -/
theorem pageOf_eq_slice (predicate : Value) (sort : SortSpec) (number size : Int)
    (scope : Option Value) (documents : List Document) :
    pageOf predicate sort number size scope documents =
      (pageOf predicate sort 1 0 scope documents).map fun all =>
        ⟨all.total, pageItems all.documents number size⟩ := by
  unfold pageOf
  cases hits scope predicate documents with
  | error fault => rfl
  | ok found =>
    rw [ok_bind, ok_bind]
    cases sort.sort found with
    | error fault => rfl
    | ok sorted =>
      have slice := pageItems_map Document.shown sorted number size
      exact congrArg (fun shown => Except.ok (Page.mk sorted.length shown)) slice.symm

theorem find_eq_slice (store : Store) (name : Text) (predicate : Value) (sort : SortSpec)
    (number size : Int) (scope : Option Value) :
    store.find name predicate sort number size scope =
      (store.find name predicate sort 1 0 scope).map fun all =>
        ⟨all.total, pageItems all.documents number size⟩ :=
  pageOf_eq_slice predicate sort number size scope _

/-- Without pages everything that is found is shown, and counted. -/
theorem pageOf_unpaged (answered : pageOf predicate sort 1 0 scope documents = .ok page) :
    page.total = page.documents.length ∧ ∃ found, hits scope predicate documents = .ok found ∧
      page.documents.Perm (found.map Document.shown) := by
  obtain ⟨found, hit, answered⟩ := bind_eq_ok.mp answered
  obtain ⟨sorted, ordered, answered⟩ := bind_eq_ok.mp answered
  cases answered
  exact ⟨(List.length_map _).symm, found, hit, (SortSpec.sort_perm ordered).map Document.shown⟩

end Store
end SurveyDesk
