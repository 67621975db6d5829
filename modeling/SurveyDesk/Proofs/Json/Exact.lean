import SurveyDesk.Proofs.Json.Rereading

/-! Values that their text stands for exactly: values without doubles, whose whole numbers are short
enough to be read, whose objects repeat no key and in whose texts no first half of a pair stands in
front of a second one. Such a value is read back as it is, unless its lists and objects are nested
deeper than is read; then that is what is wrong with its text. -/
namespace SurveyDesk.Json

/-- Whether a value is what its text stands for. -/
def IsExact : Value → Prop
  | .null | .bool _ => True
  | .str text => rejoined text = text
  | .int number => number.natAbs < Nat.pow 10 numeralLimit
  | .float _ => False
  | .list items => itemsExact items
  | .object entries =>
    (Entries.keys entries).Nodup ∧ (∀ key ∈ Entries.keys entries, rejoined key = key) ∧
      entriesExact entries
where
  /-- Whether all items are what their text stands for. -/
  itemsExact : List Value → Prop
    | [] => True
    | item :: rest => IsExact item ∧ itemsExact rest
  /-- Whether the values of all entries are what their text stands for. -/
  entriesExact : List (Text × Value) → Prop
    | [] => True
    | (_, value) :: rest => IsExact value ∧ entriesExact rest

/-- What fits is read back as it is, and what does not is refused for being too deep. -/
def KeptIf (fits : Prop) (value : α) (read : Except Fault α) : Prop :=
  fits ∧ read = .ok value ∨ ¬ fits ∧ ∃ opened, read = .error (.tooDeep opened)

/-- Of two parts both have to fit. -/
private theorem KeptIf.pair {first : α} {second : β} {read : Except Fault α}
    {more : Except Fault β} {here behind : Prop} (ahead : KeptIf here first read)
    (rest : KeptIf behind second more) (both : α → β → γ) :
    KeptIf (here ∧ behind) (both first second) (do return both (← read) (← more)) := by
  rcases ahead with ⟨fits, rfl⟩ | ⟨deep, opened, rfl⟩
  · rcases rest with ⟨others, rfl⟩ | ⟨deep, opened, rfl⟩
    · exact .inl ⟨⟨fits, others⟩, rfl⟩
    · exact .inr ⟨fun both => deep both.2, opened, rfl⟩
  · exact .inr ⟨fun both => deep both.1, opened, rfl⟩

private theorem KeptIf.congr {fits others : Prop} {value : α} {read : Except Fault α}
    (kept : KeptIf fits value read) (same : fits ↔ others) : KeptIf others value read := by
  rw [KeptIf, ← same]
  exact kept

mutual

/-- A value that its text stands for is read back as it is if it is not nested too deeply. -/
theorem reread_exact (limit : Nat) (value : Value) (exact : IsExact value) (depth : Nat)
    (shallow : depth ≤ limit) :
    KeptIf (depth + nesting value ≤ limit) value (reread limit depth value) := by
  match value with
  | .null | .bool _ => exact .inl ⟨shallow, rfl⟩
  | .str text => exact .inl ⟨shallow, by rw [reread, show rejoined text = text from exact]⟩
  | .int number => exact .inl ⟨shallow, reread_int exact limit depth⟩
  | .list items =>
    by_cases full : limit ≤ depth
    · refine .inr ⟨?_, .list, if_pos full⟩
      simp only [nesting]
      omega
    · have inside := rereadItems_exact limit items exact (depth + 1) (by omega)
      rw [reread, if_neg full]
      rcases inside with ⟨fits, read⟩ | ⟨deep, opened, read⟩
      · refine .inl ⟨?_, by rw [read]; rfl⟩
        simp only [nesting]
        omega
      · refine .inr ⟨?_, opened, by rw [read]; rfl⟩
        simp only [nesting]
        omega
  | .object entries =>
    obtain ⟨distinct, settled, values⟩ := exact
    by_cases full : limit ≤ depth
    · refine .inr ⟨?_, .object, if_pos full⟩
      simp only [nesting]
      omega
    · have inside := rereadEntries_exact limit entries settled values (depth + 1) (by omega)
      rw [reread, if_neg full]
      rcases inside with ⟨fits, read⟩ | ⟨deep, opened, read⟩
      · refine .inl ⟨?_, ?_⟩
        · simp only [nesting]
          omega
        · rw [read, ok_bind, Entries.ofPairs_of_nodup distinct]
          rfl
      · refine .inr ⟨?_, opened, by rw [read]; rfl⟩
        simp only [nesting]
        omega

private theorem rereadItems_exact (limit : Nat) (items : List Value)
    (exact : IsExact.itemsExact items) (depth : Nat) (shallow : depth ≤ limit) :
    KeptIf (depth + nesting.itemsNesting items ≤ limit) items
      (reread.rereadItems limit depth items) := by
  match items with
  | [] => exact .inl ⟨shallow, rfl⟩
  | item :: rest =>
    obtain ⟨first, others⟩ := exact
    have ahead := reread_exact limit item first depth shallow
    have behind := rereadItems_exact limit rest others depth shallow
    refine (ahead.pair behind List.cons).congr ?_
    simp only [nesting.itemsNesting]
    omega

private theorem rereadEntries_exact (limit : Nat) (entries : List (Text × Value))
    (settled : ∀ key ∈ Entries.keys entries, rejoined key = key)
    (exact : IsExact.entriesExact entries) (depth : Nat) (shallow : depth ≤ limit) :
    KeptIf (depth + nesting.entriesNesting entries ≤ limit) entries
      (reread.rereadEntries limit depth entries) := by
  match entries with
  | [] => exact .inl ⟨shallow, rfl⟩
  | (key, value) :: rest =>
    obtain ⟨first, others⟩ := exact
    obtain ⟨same, settled⟩ := List.forall_mem_cons.mp settled
    have ahead := reread_exact limit value first depth shallow
    have behind := rereadEntries_exact limit rest settled others depth shallow
    rw [reread.rereadEntries, show rejoined key = key from same]
    refine (ahead.pair behind fun value rest => (key, value) :: rest).congr ?_
    simp only [nesting.entriesNesting]
    omega

end

/-- A text that starts with a byte order mark stands for no value. -/
private theorem valueWithin_mark (limit : Nat) (rest : List Point) :
    valueWithin limit (.char '\ufeff' :: rest) = .error (.malformed .expectedValue 0) := rfl

/-- The text of a value that it stands for is read as the value. -/
theorem readWithin_write (sound : spacing.Sound) (limit : Nat) (exact : IsExact value) :
    KeptIf (nesting value ≤ limit) value
      (readWithin limit ((write spacing value).map .char)) := by
  have read := reread_exact limit value exact 0 (Nat.zero_le limit)
  rw [← valueWithin_write sound, Nat.zero_add] at read
  unfold readWithin
  split
  · rename_i rest marked
    rw [marked, valueWithin_mark] at read
    rcases read with ⟨_, read⟩ | ⟨_, _, read⟩ <;> cases read
  · exact read

end SurveyDesk.Json
