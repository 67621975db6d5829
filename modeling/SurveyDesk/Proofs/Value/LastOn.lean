import SurveyDesk.Proofs.Value.Entries

/-! Of several entries under one key only the last counts. Putting entries in, in order, gives every
key its last value; how often a key came before, and with which values, makes no difference. -/
namespace SurveyDesk

/-- What stands last under a name. -/
def lastOn {α : Type} (name : Text) : List (Text × α) → Option α
  | [] => none
  | (other, content) :: rest =>
    (lastOn name rest).or (if other = name then some content else none)

variable {α β : Type}

theorem lastOn_append (name : Text) (first second : List (Text × α)) :
    lastOn name (first ++ second) = (lastOn name second).or (lastOn name first) := by
  induction first with
  | nil => simp [lastOn]
  | cons entry rest ih =>
    obtain ⟨other, content⟩ := entry
    simp only [List.cons_append, lastOn, ih, Option.or_assoc]

theorem mem_of_lastOn {entries : List (Text × α)} (last : lastOn name entries = some content) :
    (name, content) ∈ entries := by
  induction entries with
  | nil => cases last
  | cons entry rest ih =>
    obtain ⟨other, first⟩ := entry
    simp only [lastOn] at last
    cases later : lastOn name rest with
    | some found =>
      rw [later, Option.some_or] at last
      cases last
      exact List.mem_cons_of_mem _ (ih later)
    | none =>
      rw [later, Option.none_or] at last
      split at last
      · rename_i same
        cases last
        simp [same]
      · cases last

theorem lastOn_eq_none {entries : List (Text × α)} :
    lastOn name entries = none ↔ ∀ entry ∈ entries, entry.1 ≠ name := by
  induction entries with
  | nil => simp [lastOn]
  | cons entry rest ih =>
    obtain ⟨other, content⟩ := entry
    rw [lastOn, Option.or_eq_none_iff, ih, List.forall_mem_cons]
    by_cases same : other = name <;> simp [same]

/-- Entries that correspond one by one under their names correspond in what stands last. -/
theorem lastOn_rel_cons {related : α → β → Prop} {name : Text} {first : List (Text × α)}
    {second : List (Text × β)}
    (rest : Option.Rel related (lastOn name first) (lastOn name second)) (other : Text)
    (here : other = name → related content verdict) :
    Option.Rel related (lastOn name ((other, content) :: first))
      (lastOn name ((other, verdict) :: second)) := by
  unfold lastOn
  generalize lastOn name first = a at rest ⊢
  generalize lastOn name second = b at rest ⊢
  cases rest with
  | some related => exact .some related
  | none =>
    by_cases same : other = name
    · simpa [same] using Option.Rel.some (here same)
    · simp [same]

theorem lastOn_rel_append {related : α → β → Prop} {name : Text}
    {first third : List (Text × α)} {second fourth : List (Text × β)}
    (front : Option.Rel related (lastOn name first) (lastOn name second))
    (back : Option.Rel related (lastOn name third) (lastOn name fourth)) :
    Option.Rel related (lastOn name (first ++ third)) (lastOn name (second ++ fourth)) := by
  rw [lastOn_append, lastOn_append]
  generalize lastOn name third = a at back ⊢
  generalize lastOn name fourth = b at back ⊢
  cases back with
  | some related => exact .some related
  | none => simpa using front

namespace Entries

theorem get?_putAll (entries : Entries) (changes : List (Text × Value)) (wanted : Text) :
    (entries.putAll changes).get? wanted = (lastOn wanted changes).or (entries.get? wanted) := by
  induction changes generalizing entries with
  | nil => rfl
  | cons change rest ih =>
    obtain ⟨key, value⟩ := change
    rw [putAll_cons, ih, get?_put, lastOn, Option.or_assoc]
    by_cases same : key = wanted <;> simp [same]

theorem get?_ofPairs (pairs : List (Text × Value)) (wanted : Text) :
    (ofPairs pairs).get? wanted = lastOn wanted pairs := by
  rw [ofPairs, get?_putAll, get?_nil, Option.or_none]

/-- Where no key comes twice, what stands last under a key is the only thing that does. -/
theorem lastOn_of_nodup {entries : Entries} (distinct : entries.keys.Nodup) :
    lastOn key entries = entries.get? key := by
  have put := get?_ofPairs entries key
  rw [ofPairs_of_nodup distinct] at put
  exact put.symm

theorem nodup_ofPairs (pairs : List (Text × Value)) : (ofPairs pairs).keys.Nodup :=
  nodup_putAll (by simp) pairs

theorem mem_ofPairs_iff {pairs : List (Text × Value)} :
    (key, value) ∈ ofPairs pairs ↔ lastOn key pairs = some value := by
  rw [← get?_ofPairs]
  exact ⟨get?_of_mem (nodup_ofPairs pairs), mem_of_get?⟩

/-- Keys with another, at the end if it is new. -/
def addKey (keys : List Text) (key : Text) : List Text :=
  if key ∈ keys then keys else keys ++ [key]

theorem keys_put (entries : Entries) (key : Text) (value : Value) :
    (entries.put key value).keys = addKey entries.keys key := by
  unfold addKey
  split
  · exact keys_put_of_mem ‹_›
  · rw [put_of_not_mem ‹_›, keys_append]
    rfl

/-- The keys that are there and those that are put in, in order of first arrival. -/
theorem keys_putAll (entries : Entries) (changes : List (Text × Value)) :
    (entries.putAll changes).keys = (Entries.keys changes).foldl addKey entries.keys := by
  induction changes generalizing entries with
  | nil => rfl
  | cons change rest ih =>
    obtain ⟨key, value⟩ := change
    rw [putAll_cons, ih, keys_put, keys_cons, List.foldl_cons]

theorem mem_addKeys {keys news : List Text} :
    key ∈ news.foldl addKey keys ↔ key ∈ keys ∨ key ∈ news := by
  induction news generalizing keys with
  | nil => simp
  | cons new rest ih =>
    rw [List.foldl_cons, ih, addKey, List.mem_cons]
    split
    · rename_i present
      constructor
      · rintro (old | later)
        · exact Or.inl old
        · exact Or.inr (Or.inr later)
      · rintro (old | rfl | later)
        · exact Or.inl old
        · exact Or.inl present
        · exact Or.inr later
    · rw [List.mem_append, List.mem_singleton, or_assoc]

/-- Adding keys that were already gathered is adding the keys that they were gathered from. -/
theorem foldl_addKey_gathered (keys gathered news : List Text) :
    (news.foldl addKey gathered).foldl addKey keys =
      news.foldl addKey (gathered.foldl addKey keys) := by
  induction news generalizing gathered with
  | nil => rfl
  | cons new rest ih =>
    rw [List.foldl_cons, List.foldl_cons, ih]
    congr 1
    unfold addKey
    by_cases present : new ∈ gathered
    · rw [if_pos present, if_pos]
      exact mem_addKeys.mpr (Or.inr present)
    · rw [if_neg present, List.foldl_append]
      rfl

/-- Objects with the same keys in the same order and the same values under them are the same. -/
theorem ext_get? {entries others : Entries} (distinct : entries.keys.Nodup)
    (keys : entries.keys = others.keys)
    (values : ∀ key, entries.get? key = others.get? key) : entries = others := by
  induction entries generalizing others with
  | nil =>
    cases others with
    | nil => rfl
    | cons other rest => cases keys
  | cons entry rest ih =>
    cases others with
    | nil => cases keys
    | cons other tail =>
      obtain ⟨key, value⟩ := entry
      obtain ⟨named, content⟩ := other
      obtain ⟨rfl, sameKeys⟩ := List.cons.inj keys
      obtain ⟨fresh, distinct⟩ := List.nodup_cons.mp distinct
      have here := values key
      rw [get?_cons, get?_cons, if_pos rfl, if_pos rfl] at here
      cases here
      rw [ih distinct sameKeys fun wanted => ?_]
      by_cases same : key = wanted
      · subst same
        have absent : key ∉ Entries.keys tail := fun member => fresh (sameKeys ▸ member)
        rw [get?_eq_none_iff.mpr fresh, get?_eq_none_iff.mpr absent]
      · have there := values wanted
        rwa [get?_cons, get?_cons, if_neg same, if_neg same] at there

/-- Putting in entries that were put together first is putting them in one by one. -/
theorem putAll_ofPairs {entries : Entries} (distinct : entries.keys.Nodup)
    (pairs : List (Text × Value)) : entries.putAll (ofPairs pairs) = entries.putAll pairs := by
  refine ext_get? (nodup_putAll distinct _) ?_ fun key => ?_
  · rw [keys_putAll, keys_putAll, ofPairs, keys_putAll]
    exact foldl_addKey_gathered entries.keys [] (Entries.keys pairs)
  · rw [get?_putAll, get?_putAll, lastOn_of_nodup (nodup_ofPairs pairs), get?_ofPairs]

/-- The value under a key does not matter once the key is given another. -/
theorem put_ofPairs_congr {pairs others : List (Text × Value)}
    (keys : Entries.keys pairs = Entries.keys others)
    (values : ∀ name, name ≠ key → lastOn name pairs = lastOn name others) (value : Value) :
    (ofPairs pairs).put key value = (ofPairs others).put key value := by
  refine ext_get? (nodup_put (nodup_ofPairs pairs)) ?_ fun name => ?_
  · rw [keys_put, keys_put, ofPairs, ofPairs, keys_putAll, keys_putAll, keys]
  · rw [get?_put, get?_put, get?_ofPairs, get?_ofPairs]
    split
    · rfl
    · exact values name (Ne.symm ‹_›)

end Entries
end SurveyDesk
