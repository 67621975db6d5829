import SurveyDesk.Proofs.Value.Text
import SurveyDesk.Value.Keyed

/-! Tables whose keys are texts that their contents carry. Looking such a table up is looking for
the first item with a name; putting content under a name replaces what the item with that name
stands for, or adds an item at the end. -/
namespace SurveyDesk.Keyed

variable {α β γ : Type} {name : β → Text} {content : β → α}

/-- The table of items under their names. -/
def byName (name : β → Text) (content : β → α) (items : List β) : Keyed α :=
  items.map fun item => (.str (name item), content item)

@[simp] theorem contents_byName (items : List β) :
    contents (byName name content items) = items.map content := by
  simp [contents, byName]

theorem get?_byName (items : List β) (wanted : Text) :
    get? (.str wanted) (byName name content items) =
      (items.find? fun item => name item = wanted).map content := by
  induction items with
  | nil => rfl
  | cons item rest ih =>
    simp only [byName, List.map_cons, get?, Value.text_alike_text, List.find?_cons] at ih ⊢
    by_cases same : name item = wanted
    · simp [same]
    · simpa [same] using ih

/-- What cannot be a key names nothing. -/
theorem get?_byName_not_key {key : Value} (unfit : key.isKey = false) (items : List β) :
    get? key (byName name content items) = none := by
  induction items with
  | nil => rfl
  | cons item rest ih =>
    have different : ¬ (Value.str (name item)).alike key := by
      intro alike
      rw [Value.text_alike_iff.mp alike] at unfit
      cases unfit
    simp only [byName, List.map_cons, get?, if_neg different] at ih ⊢
    exact ih

theorem put_byName_of_absent {items : List β} {wanted : Text}
    (absent : ∀ item ∈ items, name item ≠ wanted) (value : α) :
    put (.str wanted) value (byName name content items) =
      byName name content items ++ [(.str wanted, value)] := by
  induction items with
  | nil => rfl
  | cons item rest ih =>
    have tail := ih fun other member => absent other (List.mem_cons_of_mem _ member)
    simp only [byName, List.map_cons] at tail ⊢
    simp [put, absent item (by simp), tail]

private theorem map_id_of_forall {items : List β} {change : β → β}
    (unchanged : ∀ item ∈ items, change item = item) : items.map change = items := by
  induction items with
  | nil => rfl
  | cons item rest ih =>
    rw [List.map_cons, unchanged item (by simp),
      ih fun other member => unchanged other (List.mem_cons_of_mem _ member)]

/-- Putting in what a changed item stands for changes that item and no other. -/
theorem put_byName_of_mem {items : List β} {item changed : β} (distinct : (items.map name).Nodup)
    (member : item ∈ items) (named : name changed = name item) :
    put (.str (name item)) (content changed) (byName name content items) =
      byName name content
        (items.map fun other => if name other = name item then changed else other) := by
  induction items with
  | nil => cases member
  | cons first rest ih =>
    obtain ⟨fresh, distinct⟩ := List.nodup_cons.mp distinct
    simp only [byName, List.map_cons, put, Value.text_alike_text, decide_eq_true_eq] at ih ⊢
    by_cases same : name first = name item
    · have others : ∀ other ∈ rest, name other ≠ name item := fun other within equal =>
        fresh (same ▸ equal ▸ List.mem_map_of_mem (f := name) within)
      rw [if_pos same, if_pos same, named, same,
        map_id_of_forall fun other within => if_neg (others other within)]
    · have later : item ∈ rest := by
        rcases List.mem_cons.mp member with rfl | later
        · exact absurd rfl same
        · exact later
      rw [if_neg same, if_neg same, ih distinct later]

/-- An item that takes the place of the one with its name keeps all names as they are. -/
theorem names_replaced (name : β → Text) (items : List β) (changed : β) :
    (items.map fun other => if name other = name changed then changed else other).map name =
      items.map name := by
  rw [List.map_map]
  refine List.map_congr_left fun other _ => ?_
  rw [Function.comp_apply]
  split
  · rename_i same
    exact same.symm
  · rfl

theorem find?_of_mem {items : List β} (distinct : (items.map name).Nodup) (member : item ∈ items) :
    items.find? (fun other => name other = name item) = some item := by
  induction items with
  | nil => cases member
  | cons first rest ih =>
    obtain ⟨fresh, distinct⟩ := List.nodup_cons.mp distinct
    rcases List.mem_cons.mp member with rfl | later
    · simp
    · have different : name first ≠ name item := fun same =>
        fresh (same ▸ List.mem_map_of_mem (f := name) later)
      simp only [List.find?_cons, different, decide_false]
      exact ih distinct later

/-- Looking up parts of items by the names of their items is looking up the items. -/
theorem find?_parts {part : β → Option γ} {partName : γ → Text} {items : List β}
    (named : ∀ item piece, part item = some piece → partName piece = name item)
    (distinct : (items.map name).Nodup) (wanted : Text) :
    (items.filterMap part).find? (fun piece => partName piece = wanted) =
      (items.find? fun item => name item = wanted).bind part := by
  induction items with
  | nil => rfl
  | cons first rest ih =>
    obtain ⟨fresh, distinct⟩ := List.nodup_cons.mp distinct
    have later := ih distinct
    by_cases same : name first = wanted
    · have missed : rest.find? (fun item => name item = wanted) = none :=
        List.find?_eq_none.mpr fun other within equal =>
          fresh (same.trans (of_decide_eq_true equal).symm ▸ List.mem_map_of_mem (f := name) within)
      rw [missed] at later
      rw [List.find?_cons_of_pos (by simpa using same), Option.bind_some]
      cases there : part first with
      | none => rw [List.filterMap_cons_none there, later, Option.bind_none]
      | some piece =>
        rw [List.filterMap_cons_some there]
        exact List.find?_cons_of_pos (by simpa using (named first piece there).trans same)
    · rw [List.find?_cons_of_neg (by simpa using same), ← later]
      cases there : part first with
      | none => rw [List.filterMap_cons_none there]
      | some piece =>
        rw [List.filterMap_cons_some there]
        exact List.find?_cons_of_neg (by simpa [named first piece there] using same)

/-! ## What is under a text -/

variable {table : Keyed α} {key : Value} {value : α}

theorem get?_append (wanted : Value) (first second : Keyed α) :
    get? wanted (first ++ second) = (get? wanted first).or (get? wanted second) := by
  induction first with
  | nil => rfl
  | cons row rest ih =>
    obtain ⟨other, old⟩ := row
    simp only [List.cons_append, get?, ih]
    split <;> rfl

/-- A table that lacks a key gets it at the end. -/
theorem put_of_lacking (lacking : get? key table = none) :
    put key value table = table ++ [(key, value)] := by
  induction table with
  | nil => rfl
  | cons row rest ih =>
    obtain ⟨other, old⟩ := row
    simp only [get?] at lacking
    split at lacking
    · cases lacking
    · rename_i different
      rw [put, if_neg different, ih lacking, List.cons_append]

/-- A key that is there keeps its place. -/
theorem map_fst_put (present : (get? key table).isSome) :
    (put key value table).map Prod.fst = table.map Prod.fst := by
  induction table with
  | nil => cases present
  | cons row rest ih =>
    obtain ⟨other, old⟩ := row
    simp only [get?] at present
    split at present
    · rename_i same
      rw [put, if_pos same]
      rfl
    · rename_i different
      rw [put, if_neg different, List.map_cons, List.map_cons, ih present]

/-- Putting something under a key changes what is under a text only if the text is that key. -/
theorem get?_put_text (key : Value) (value : α) (table : Keyed α) (wanted : Text) :
    get? (.str wanted) (put key value table) =
      if key.alike (.str wanted) then some value else get? (.str wanted) table := by
  induction table with
  | nil => rfl
  | cons row rest ih =>
    obtain ⟨other, old⟩ := row
    simp only [put]
    by_cases same : other.alike key
    · rw [if_pos same]
      simp only [get?]
      by_cases text : key.alike (.str wanted)
      · have here : other.alike (.str wanted) := Value.alike_text_iff.mp text ▸ same
        rw [if_pos here, if_pos text]
      · have apart : ¬ other.alike (.str wanted) := fun here => text <| Value.alike_text_iff.mpr <|
          Value.text_alike_iff.mp (Value.alike_text_iff.mp here ▸ same)
        rw [if_neg apart, if_neg text, if_neg apart]
    · rw [if_neg same]
      simp only [get?, ih]
      by_cases here : other.alike (.str wanted)
      · have apart : ¬ key.alike (.str wanted) := fun text => same <|
          Value.alike_text_iff.mp text ▸ here
        rw [if_pos here, if_neg apart, if_pos here]
      · rw [if_neg here, if_neg here]

/-- A table under distinct texts has one content for each, in their order. -/
theorem map_get?_texts {texts : List Text} (keys : table.map Prod.fst = texts.map .str)
    (distinct : texts.Nodup) :
    texts.map (fun text => get? (.str text) table) = (contents table).map some := by
  induction texts generalizing table with
  | nil =>
    rw [List.map_nil, List.map_eq_nil_iff] at keys
    rw [keys]
    rfl
  | cons text rest ih =>
    cases table with
    | nil => cases keys
    | cons row table =>
      obtain ⟨key, content⟩ := row
      obtain ⟨rfl, behind⟩ := List.cons.inj keys
      obtain ⟨fresh, distinct⟩ := List.nodup_cons.mp distinct
      have later : rest.map (fun other => get? (.str other) ((.str text, content) :: table)) =
          rest.map (fun other => get? (.str other) table) := by
        refine List.map_congr_left fun other member => ?_
        have different : text ≠ other := fun same => fresh (same ▸ member)
        simp [get?, different]
      rw [List.map_cons, later, ih behind distinct]
      simp [get?, contents]

theorem isSome_get?_texts {texts : List Text} (keys : table.map Prod.fst = texts.map .str)
    (wanted : Text) : (get? (.str wanted) table).isSome ↔ wanted ∈ texts := by
  induction texts generalizing table with
  | nil =>
    rw [List.map_nil, List.map_eq_nil_iff] at keys
    simp [keys, get?]
  | cons text rest ih =>
    cases table with
    | nil => cases keys
    | cons row table =>
      obtain ⟨key, content⟩ := row
      obtain ⟨rfl, behind⟩ := List.cons.inj keys
      by_cases same : text = wanted
      · simp [get?, same]
      · simp [get?, same, Ne.symm same, ih behind]

/-- Of what several changes put under a text the last counts. -/
theorem get?_putAll_text (table changes : Keyed α) (wanted : Text) :
    get? (.str wanted) (putAll table changes) =
      (get? (.str wanted) changes.reverse).or (get? (.str wanted) table) := by
  induction changes generalizing table with
  | nil => rfl
  | cons change rest ih =>
    obtain ⟨key, value⟩ := change
    have first : putAll table ((key, value) :: rest) = putAll (put key value table) rest := rfl
    rw [first, ih, get?_put_text, List.reverse_cons, get?_append, Option.or_assoc]
    simp only [get?]
    split <;> rfl

end SurveyDesk.Keyed
