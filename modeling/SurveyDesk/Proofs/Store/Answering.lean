import SurveyDesk.Proofs.Store.Page

/-! When documents can be found and sorted. Finding stops at the first document that the predicate
cannot be decided for, and sorting stops only where two values have no order; whole numbers always
have one. So a page of documents that are sorted by whole numbers is answered unless the predicate
stops. -/
namespace SurveyDesk

namespace SortSpec

/-- Whether all that documents are sorted by is whole numbers. -/
def SortsNumbers (spec : SortSpec) (documents : List Document) : Prop :=
  ∀ path ∈ Entries.keys spec, ∀ document ∈ documents,
    ∃ number : Int, keyOf path document = some (.int number)

variable {spec : SortSpec} {documents others : List Document}

theorem SortsNumbers.mono (numbers : SortsNumbers spec documents) (within : others ⊆ documents) :
    SortsNumbers spec others :=
  fun path member document found => numbers path member document (within found)

theorem before?_numbers (first second : Int) :
    (Key.before? (some (.int first)) (some (.int second))).isSome = true := by
  simp only [Key.before?]
  split <;> rfl

/-- Keys can be sorted if each can be compared with each. -/
theorem comparable_of_forall {keys : List Key}
    (each : ∀ key ∈ keys, ∀ other ∈ keys, (Key.before? key other).isSome = true) :
    comparable keys = true := by
  induction keys with
  | nil => rfl
  | cons key rest ih =>
    have behind := ih fun other member last => each other (List.mem_cons_of_mem _ member) last ∘
      List.mem_cons_of_mem _
    rw [comparable, behind, Bool.and_true, List.all_eq_true]
    intro other member
    have later := List.mem_cons_of_mem key member
    rw [each key List.mem_cons_self other later, each other later key List.mem_cons_self,
      Bool.and_self]

/-- Whole numbers can be compared with one another. -/
theorem comparable_numbers {keys : List Key}
    (numbers : ∀ key ∈ keys, ∃ number : Int, key = some (.int number)) :
    comparable keys = true := by
  refine comparable_of_forall fun key member other last => ?_
  obtain ⟨first, rfl⟩ := numbers key member
  obtain ⟨second, rfl⟩ := numbers other last
  exact before?_numbers first second

theorem SortsNumbers.comparable (numbers : SortsNumbers spec documents)
    (member : path ∈ Entries.keys spec) : comparable (documents.map (keyOf path)) = true := by
  refine comparable_numbers fun key found => ?_
  obtain ⟨document, here, rfl⟩ := List.mem_map.mp found
  exact numbers path member document here

/-- Documents that are sorted by whole numbers are sorted. -/
theorem SortsNumbers.answers (numbers : SortsNumbers spec documents) :
    ∃ sorted, sort spec documents = .ok sorted := by
  induction spec with
  | nil => exact ⟨documents, rfl⟩
  | cons direction rest ih =>
    obtain ⟨path, direction⟩ := direction
    obtain ⟨behind, earlier⟩ := ih fun other member => numbers other (List.mem_cons_of_mem _ member)
    have within := numbers.mono (sort_perm earlier).subset
    have comparable := within.comparable (List.mem_cons_self (a := path))
    refine ⟨behind.mergeSort (staysAhead path (isDescending direction)), ?_⟩
    rw [sort, earlier, ok_bind, sortBy, if_pos comparable]

end SortSpec

namespace Store

/-- The fault at which deciding a predicate stops for the first of several documents for which it
stops. -/
def firstFault (predicate : Value) : List Value → Option Fault
  | [] => none
  | document :: rest =>
    match Predicate.holds document predicate with
    | .error fault => some fault
    | .ok _ => firstFault predicate rest

theorem of_firstFault {predicate : Value} {documents : List Value}
    (first : firstFault predicate documents = some fault) :
    ∃ document ∈ documents, Predicate.holds document predicate = .error fault := by
  induction documents with
  | nil => cases first
  | cons document rest ih =>
    unfold firstFault at first
    split at first
    · rename_i stopped
      cases first
      exact ⟨document, List.mem_cons_self, stopped⟩
    · obtain ⟨other, member, stopped⟩ := ih first
      exact ⟨other, List.mem_cons_of_mem _ member, stopped⟩

variable {predicate : Value} {documents : List Document}

/-- Finding stops exactly at the first fault, and finds only what is there. -/
theorem hits_eq_firstFault (predicate : Value) (documents : List Document) :
    match firstFault predicate (documents.map Document.named) with
    | some fault => hits none predicate documents = .error fault
    | none => ∃ found, hits none predicate documents = .ok found ∧ found ⊆ documents := by
  induction documents with
  | nil => exact ⟨[], rfl, List.Subset.refl _⟩
  | cons document rest ih =>
    simp only [List.map_cons, firstFault, hits, pure_bind, if_true]
    cases Predicate.holds document.named predicate with
    | error fault => rfl
    | ok satisfied =>
      dsimp only [ok_bind]
      split at ih
      · rw [ih]
        rfl
      · obtain ⟨found, answered, within⟩ := ih
        rw [answered]
        cases satisfied with
        | true => exact ⟨document :: found, rfl, List.cons_subset_cons _ within⟩
        | false => exact ⟨found, rfl, List.subset_cons_of_subset _ within⟩

/-- A page of documents that are sorted by whole numbers is answered unless the predicate stops. -/
theorem pageOf_eq_firstFault {sort : SortSpec} (numbers : sort.SortsNumbers documents)
    (predicate : Value) (number size : Int) :
    match firstFault predicate (documents.map Document.named) with
    | some fault => pageOf predicate sort number size none documents = .error fault
    | none => ∃ page, pageOf predicate sort number size none documents = .ok page := by
  have hit := hits_eq_firstFault predicate documents
  split at hit
  · rw [pageOf, hit, error_bind]
  · obtain ⟨found, answered, within⟩ := hit
    obtain ⟨sorted, ordered⟩ := (numbers.mono within).answers
    exact ⟨_, by rw [pageOf, answered, ok_bind, ordered, ok_bind, pure_eq_ok]⟩

end Store
end SurveyDesk
