import SurveyDesk.Value.Basic

/-! An object is determined by its keys and by what stands under each of them. Putting an entry in
changes exactly the entry under its key, and putting in several leaves each key with the last value
that was given for it. -/
namespace SurveyDesk.Entries

@[simp] theorem get?_nil : Entries.get? [] wanted = none := rfl

theorem get?_cons :
    Entries.get? ((key, value) :: rest) wanted =
      if key = wanted then some value else Entries.get? rest wanted := rfl

@[simp] theorem keys_nil : Entries.keys [] = [] := rfl

@[simp] theorem keys_cons : Entries.keys ((key, value) :: rest) = key :: Entries.keys rest := rfl

@[simp] theorem keys_append (first second : Entries) :
    Entries.keys (first ++ second) = Entries.keys first ++ Entries.keys second :=
  List.map_append

theorem mem_of_get? {entries : Entries} (found : entries.get? key = some value) :
    (key, value) ∈ entries := by
  induction entries with
  | nil => cases found
  | cons entry rest ih =>
    obtain ⟨other, old⟩ := entry
    rw [get?_cons] at found
    split at found
    · rename_i same
      cases found
      simp [same]
    · exact List.mem_cons_of_mem _ (ih found)

theorem mem_keys_of_mem {entries : Entries} (member : (key, value) ∈ entries) :
    key ∈ entries.keys :=
  List.mem_map_of_mem (f := Prod.fst) member

theorem get?_eq_none_iff {entries : Entries} : entries.get? key = none ↔ key ∉ entries.keys := by
  induction entries with
  | nil => simp
  | cons entry rest ih =>
    obtain ⟨other, old⟩ := entry
    rw [get?_cons, keys_cons, List.mem_cons, not_or, ← ih]
    by_cases same : other = key
    · simp [same]
    · simp [same, Ne.symm same]

/-- Where no key comes twice, an entry is what its key leads to. -/
theorem get?_of_mem {entries : Entries} (distinct : entries.keys.Nodup)
    (member : (key, value) ∈ entries) : entries.get? key = some value := by
  induction entries with
  | nil => cases member
  | cons entry rest ih =>
    obtain ⟨other, old⟩ := entry
    obtain ⟨fresh, distinct⟩ := List.nodup_cons.mp distinct
    rw [get?_cons]
    rcases List.mem_cons.mp member with same | member
    · cases same
      simp
    · have different : other ≠ key := fun same => fresh (same ▸ mem_keys_of_mem member)
      rw [if_neg different]
      exact ih distinct member

theorem get?_put (entries : Entries) (key : Text) (value : Value) (wanted : Text) :
    (entries.put key value).get? wanted =
      if key = wanted then some value else entries.get? wanted := by
  induction entries with
  | nil => rfl
  | cons entry rest ih =>
    obtain ⟨other, old⟩ := entry
    simp only [put]
    split
    · rename_i same
      subst same
      rw [get?_cons, get?_cons]
      split <;> rfl
    · rename_i different
      rw [get?_cons, get?_cons, ih]
      split
      · rename_i here
        rw [if_neg (fun same => different (here.trans same.symm))]
      · rfl

theorem has_put {entries : Entries} :
    (entries.put key value).has wanted ↔ wanted = key ∨ entries.has wanted := by
  unfold has
  rw [get?_put]
  split
  · rename_i same
    exact iff_of_true rfl (Or.inl same.symm)
  · rename_i different
    exact (or_iff_right (Ne.symm different)).symm

theorem mem_put {entries : Entries} (member : entry ∈ entries.put key value) :
    entry = (key, value) ∨ entry ∈ entries := by
  induction entries with
  | nil => simpa [put] using member
  | cons first rest ih =>
    obtain ⟨other, old⟩ := first
    simp only [put] at member
    split at member
    · rcases List.mem_cons.mp member with here | later
      · exact Or.inl here
      · exact Or.inr (List.mem_cons_of_mem _ later)
    · rcases List.mem_cons.mp member with here | later
      · exact Or.inr (by simp [here])
      · exact (ih later).imp_right (List.mem_cons_of_mem _)

/-- A key that is there keeps its place. -/
theorem keys_put_of_mem {entries : Entries} (present : key ∈ entries.keys) :
    (entries.put key value).keys = entries.keys := by
  induction entries with
  | nil => cases present
  | cons entry rest ih =>
    obtain ⟨other, old⟩ := entry
    simp only [put]
    split
    · rename_i same
      simp [same]
    · rename_i different
      rw [keys_cons, keys_cons, ih]
      exact (List.mem_cons.mp present).resolve_left (Ne.symm different)

/-- A key that is new comes last. -/
theorem put_of_not_mem {entries : Entries} (absent : key ∉ entries.keys) :
    entries.put key value = entries ++ [(key, value)] := by
  induction entries with
  | nil => rfl
  | cons entry rest ih =>
    obtain ⟨other, old⟩ := entry
    rw [keys_cons, List.mem_cons, not_or] at absent
    simp only [put, if_neg (Ne.symm absent.1), ih absent.2, List.cons_append]

theorem nodup_put {entries : Entries} (distinct : entries.keys.Nodup) :
    (entries.put key value).keys.Nodup := by
  by_cases present : key ∈ entries.keys
  · rwa [keys_put_of_mem present]
  · rw [put_of_not_mem present, keys_append]
    refine List.nodup_append.mpr ⟨distinct, by simp, ?_⟩
    rintro other member _ single rfl
    simp only [keys_cons, keys_nil, List.mem_singleton] at single
    exact present (single ▸ member)

@[simp] theorem putAll_nil (entries : Entries) : entries.putAll [] = entries := rfl

@[simp] theorem putAll_cons (entries rest : Entries) :
    entries.putAll ((key, value) :: rest) = (entries.put key value).putAll rest := rfl

theorem putAll_append (entries first second : Entries) :
    entries.putAll (first ++ second) = (entries.putAll first).putAll second :=
  List.foldl_append

theorem nodup_putAll {entries : Entries} (distinct : entries.keys.Nodup) (changes : Entries) :
    (entries.putAll changes).keys.Nodup := by
  induction changes generalizing entries with
  | nil => exact distinct
  | cons change rest ih => exact ih (nodup_put distinct)

/-- Entries without a repeated key are put together as they are. -/
theorem putAll_of_disjoint (entries : Entries) {changes : Entries} (distinct : changes.keys.Nodup)
    (apart : ∀ key ∈ changes.keys, key ∉ entries.keys) :
    entries.putAll changes = entries ++ changes := by
  induction changes generalizing entries with
  | nil => simp
  | cons change rest ih =>
    obtain ⟨key, value⟩ := change
    obtain ⟨fresh, distinct⟩ := List.nodup_cons.mp distinct
    rw [putAll_cons, put_of_not_mem (apart key (by simp)), ih _ distinct]
    · simp
    · intro other member
      have outside := apart other (List.mem_cons_of_mem _ member)
      have different : other ≠ key := fun same => fresh (same ▸ member)
      simp [outside, different]

theorem ofPairs_of_nodup {pairs : List (Text × Value)} (distinct : (Entries.keys pairs).Nodup) :
    ofPairs pairs = pairs :=
  putAll_of_disjoint [] distinct (by simp)

end SurveyDesk.Entries
