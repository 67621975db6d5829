import Mathlib.Data.List.Forall2
import SurveyDesk.Json.Octets
import SurveyDesk.Proofs.Fault
import SurveyDesk.Proofs.Json.Text
import SurveyDesk.Proofs.Json.WrittenNumber
import SurveyDesk.Proofs.Text.Utf8
import SurveyDesk.Proofs.Value.Entries

/-! Reading back what was written. The text of a value is read as the value again, except that a
double may come back as another one, that a repeated key is kept once, and that a whole number of
too many digits and a nesting too deep are refused. `reread` is that result as a function of the
value alone; it does not depend on how the text is spaced. -/
namespace SurveyDesk.Json

/-! ## The result -/

/-- What is read back for a value inside so many lists and objects. -/
def reread (limit : Nat) : (depth : Nat) → Value → Except Fault Value
  | _, .null => .ok .null
  | _, .bool flag => .ok (.bool flag)
  | _, .int number =>
    let digits := (Nat.toDigits 10 number.natAbs).length
    if numeralLimit < digits then .error (.numeralTooLong digits) else .ok (.int number)
  | _, .float number => .ok (.float (rereadDouble number))
  | _, .str text => .ok (.str (rejoined text))
  | depth, .list items =>
    if limit ≤ depth then .error (.tooDeep .list)
    else do return .list (← rereadItems (depth + 1) items)
  | depth, .object entries =>
    if limit ≤ depth then .error (.tooDeep .object)
    else do return .object (Entries.ofPairs (← rereadEntries (depth + 1) entries))
where
  /-- What is read back for items. -/
  rereadItems : (depth : Nat) → List Value → Except Fault (List Value)
    | _, [] => .ok []
    | depth, item :: rest => do return (← reread limit depth item) :: (← rereadItems depth rest)
  /-- What is read back for entries, in their order. -/
  rereadEntries : (depth : Nat) → List (Text × Value) → Except Fault (List (Text × Value))
    | _, [] => .ok []
    | depth, (key, value) :: rest => do
      return (rejoined key, ← reread limit depth value) :: (← rereadEntries depth rest)

/-! ## Taking the tokens of a text -/

/-- The state after all tokens of a text, which starts at an offset. -/
def readOn (limit : Nat) (state : State) (offset : Nat) (text : List Point) : Except Fault State :=
  (tokensFrom text.length offset text).foldlM (State.take limit) state

/-- More steps than characters find no more tokens. -/
private theorem tokensFrom_steps (steps offset : Nat) (text : List Point)
    (enough : text.length ≤ steps) :
    tokensFrom steps offset text = tokensFrom text.length offset text := by
  induction steps using Nat.strongRecOn generalizing offset text with
  | ind steps ih =>
    cases text with
    | nil => cases steps <;> rfl
    | cons c rest =>
      obtain ⟨fewer, rfl⟩ : ∃ fewer, steps = fewer + 1 := ⟨steps - 1, by simp at enough; omega⟩
      simp only [List.length_cons, Nat.add_le_add_iff_right] at enough
      have dropped (n : Nat) : (rest.drop n).length ≤ rest.length := by simp
      -- a token may take several characters, so both sides go on with a shorter text
      have same (next n : Nat) : tokensFrom fewer next (rest.drop n) =
          tokensFrom rest.length next (rest.drop n) := by
        rw [ih fewer (Nat.lt_succ_self _) _ _ (Nat.le_trans (dropped n) enough),
          ih rest.length (Nat.lt_succ_of_le enough) _ _ (dropped n)]
      simp only [List.length_cons, tokensFrom, same]
      rw [ih fewer (Nat.lt_succ_self _) _ _ enough]

variable {limit offset : Nat} {state : State} {spacing : Spacing}

@[simp] theorem readOn_nil : readOn limit state offset [] = .ok state := rfl

/-- A token at the front of a text is taken first. -/
private theorem readOn_token {front : List Char} {rest : List Point} {token : Token}
    (first : firstToken offset (front.map .char ++ rest) = (token, front.length))
    (visible : front.head?.map (fun c => isSpace (.char c)) = some false)
    (whole : token.isBroken = false) :
    readOn limit state offset (front.map .char ++ rest) =
      state.take limit ⟨token, offset⟩ >>= fun next =>
        readOn limit next (offset + front.length) rest := by
  obtain ⟨c, more, rfl⟩ : ∃ c more, front = c :: more := by
    cases front with
    | nil => cases visible
    | cons c more => exact ⟨c, more, rfl⟩
  have shown : isSpace (.char c) = false := by simpa using visible
  rw [List.map_cons, List.cons_append] at first ⊢
  simp only [readOn, List.length_cons, tokensFrom, shown, Bool.false_eq_true, if_false, first,
    whole, Nat.add_sub_cancel, List.drop_left' (List.length_map Point.char), List.foldlM_cons]
  rw [tokensFrom_steps _ _ rest (by simp)]

/-- Spaces between tokens are passed over. -/
private theorem readOn_blanks {blanks : List Char}
    (blank : ∀ c ∈ blanks, isSpace (.char c) = true) (rest : List Point) :
    readOn limit state offset (blanks.map .char ++ rest) =
      readOn limit state (offset + blanks.length) rest := by
  induction blanks generalizing offset with
  | nil => rfl
  | cons c more ih =>
    have step : readOn limit state offset (.char c :: (more.map .char ++ rest)) =
        readOn limit state (offset + 1) (more.map .char ++ rest) := by
      simp only [readOn, List.length_cons, tokensFrom, blank c List.mem_cons_self, if_true]
    rw [List.map_cons, List.cons_append, step,
      ih fun c member => blank c (List.mem_cons_of_mem _ member), List.length_cons, Nat.add_assoc,
      Nat.add_comm 1]

/-- A mark of one character is a token, whatever stands behind it. -/
private theorem readOn_mark {c : Char} {token : Token}
    (first : ∀ rest, firstToken offset (.char c :: rest) = (token, 1))
    (visible : isSpace (.char c) = false) (whole : token.isBroken = false) (rest : List Point) :
    readOn limit state offset (.char c :: rest) =
      state.take limit ⟨token, offset⟩ >>= fun next => readOn limit next (offset + 1) rest := by
  have front : firstToken offset ([c].map .char ++ rest) = (token, [c].length) := first rest
  exact readOn_token front (by simp [visible]) whole

/-! ## Spacing -/

/-- Whether a separator is a mark with nothing but spaces behind it. -/
def IsMark (mark : Char) (separator : List Char) : Prop :=
  ∃ blanks, separator = mark :: blanks ∧ ∀ c ∈ blanks, isSpace (.char c) = true

/-- Whether only spaces are added to commas and colons. -/
structure Spacing.Sound (spacing : Spacing) : Prop where
  comma : IsMark ',' spacing.comma
  colon : IsMark ':' spacing.colon

theorem Spacing.sound_compact : Spacing.compact.Sound where
  comma := ⟨[], rfl, by simp⟩
  colon := ⟨[], rfl, by simp⟩

theorem Spacing.sound_spaced : Spacing.spaced.Sound where
  comma := ⟨[' '], rfl, by simp [isSpace]⟩
  colon := ⟨[' '], rfl, by simp [isSpace]⟩

/-- A separator is its mark. -/
private theorem readOn_separator {mark : Char} {separator : List Char} {token : Token}
    (shape : IsMark mark separator)
    (first : ∀ rest, firstToken offset (.char mark :: rest) = (token, 1))
    (visible : isSpace (.char mark) = false) (whole : token.isBroken = false)
    (rest : List Point) :
    readOn limit state offset (separator.map .char ++ rest) =
      state.take limit ⟨token, offset⟩ >>= fun next =>
        readOn limit next (offset + separator.length) rest := by
  obtain ⟨blanks, rfl, blank⟩ := shape
  rw [List.map_cons, List.cons_append, readOn_mark first visible whole]
  simp only [readOn_blanks blank, List.length_cons, Nat.add_assoc, Nat.add_comm 1]

/-! ## Reading written values -/

/-- Whether a value may come next inside what is open. -/
private def ValueDue (limit : Nat) (outer : List Frame) (state : State) : Prop :=
  ∀ token offset, token ≠ .closeList →
    state.take limit ⟨token, offset⟩ = State.takeValue limit outer ⟨token, offset⟩

/-- Whether a key may come next in an object with these entries so far. -/
private def KeyDue (limit : Nat) (read : List (Text × Value)) (outer : List Frame)
    (state : State) : Prop :=
  ∀ token offset, token ≠ .closeObject →
    state.take limit ⟨token, offset⟩ = State.takeKey read outer ⟨token, offset⟩

private theorem valueDue_valueDue (outer : List Frame) :
    ValueDue limit outer (.valueDue outer) := fun _ _ _ => rfl

private theorem valueDue_listOpened (outer : List Frame) :
    ValueDue limit (.items [] :: outer) (.listOpened outer) := fun token _ other => by
  cases token <;> first | rfl | exact absurd rfl other

private theorem keyDue_keyDue (read : List (Text × Value)) (outer : List Frame) :
    KeyDue limit read outer (.keyDue read outer) := fun _ _ _ => rfl

private theorem keyDue_objectOpened (outer : List Frame) :
    KeyDue limit [] outer (.objectOpened outer) := fun token _ other => by
  cases token <;> first | rfl | exact absurd rfl other

/-- What is written for a value that is one token. -/
private theorem readOn_scalar {front : List Char} {rest : List Point} {token : Token}
    {value : Value} {outer : List Frame} (due : ValueDue limit outer state)
    (first : firstToken offset (front.map .char ++ rest) = (token, front.length))
    (visible : front.head?.map (fun c => isSpace (.char c)) = some false)
    (whole : token.isBroken = false)
    (taken : State.takeValue limit outer ⟨token, offset⟩ =
      reread limit outer.length value >>= fun found => .ok (.delivered found outer))
    (other : token ≠ .closeList) :
    readOn limit state offset (front.map .char ++ rest) =
      reread limit outer.length value >>= fun found =>
        readOn limit (.delivered found outer) (offset + front.length) rest := by
  rw [readOn_token first visible whole, due token offset other, taken, bind_assoc]
  rfl

private theorem takeValue_int (number : Int) (outer : List Frame) :
    State.takeValue limit outer
        ⟨.whole (number < 0) (Nat.toDigits 10 number.natAbs), offset⟩ =
      reread limit outer.length (.int number) >>= fun found => .ok (.delivered found outer) := by
  have signed : (if number < 0 then -(number.natAbs : Int) else number.natAbs) = number := by
    omega
  simp only [State.takeValue, reread, wholeOf_toDigits, decide_eq_true_eq, signed]
  split <;> rfl

private theorem firstToken_writtenText (text : Text) (offset : Nat) (rest : List Point) :
    firstToken offset ((writtenText text).map .char ++ rest) =
      (.text (joined text.points), (writtenText text).length) := by
  have read := readText_written text.points 1 rest
  simp only [writtenText, List.map_cons, List.map_append, List.map_nil, List.cons_append,
    List.append_assoc, List.nil_append, firstToken, read]
  simp [Nat.add_comm]

private theorem ended_comma (rest : List Point) : Ended (.char ',' :: rest) := fun c here => by
  cases here
  exact .inl rfl

private theorem ended_closeList (rest : List Point) : Ended (.char ']' :: rest) := fun c here => by
  cases here
  exact .inr (.inl rfl)

private theorem ended_closeObject (rest : List Point) : Ended (.char '\x7d' :: rest) := by
  intro c here
  cases here
  exact .inr (.inr rfl)

private theorem Spacing.Sound.ended_comma (sound : spacing.Sound) (rest : List Point) :
    Ended (spacing.comma.map .char ++ rest) := by
  obtain ⟨blanks, comma, -⟩ := sound.comma
  rw [comma]
  exact Json.ended_comma _

/-! The marks of lists and objects, each where it may stand. -/

private theorem readOn_openList {outer : List Frame} (due : ValueDue limit outer state)
    (rest : List Point) :
    readOn limit state offset (.char '[' :: rest) =
      if limit ≤ outer.length then .error (.tooDeep .list)
      else readOn limit (.listOpened outer) (offset + 1) rest := by
  rw [readOn_mark (fun _ => rfl) rfl rfl rest, due .openList offset nofun]
  simp only [State.takeValue]
  split <;> rfl

private theorem readOn_openObject {outer : List Frame} (due : ValueDue limit outer state)
    (rest : List Point) :
    readOn limit state offset (.char '\x7b' :: rest) =
      if limit ≤ outer.length then .error (.tooDeep .object)
      else readOn limit (.objectOpened outer) (offset + 1) rest := by
  rw [readOn_mark (fun _ => rfl) rfl rfl rest, due .openObject offset nofun]
  simp only [State.takeValue]
  split <;> rfl

private theorem readOn_closeEmptyList (outer : List Frame) (rest : List Point) :
    readOn limit (.listOpened outer) offset (.char ']' :: rest) =
      readOn limit (.delivered (.list []) outer) (offset + 1) rest := by
  rw [readOn_mark (fun _ => rfl) rfl rfl rest]
  rfl

private theorem readOn_closeList (read : List Value) (outer : List Frame) (rest : List Point) :
    readOn limit (.behindItem read outer) offset (.char ']' :: rest) =
      readOn limit (.delivered (.list read.reverse) outer) (offset + 1) rest := by
  rw [readOn_mark (fun _ => rfl) rfl rfl rest]
  rfl

private theorem readOn_closeEmptyObject (outer : List Frame) (rest : List Point) :
    readOn limit (.objectOpened outer) offset (.char '\x7d' :: rest) =
      readOn limit (.delivered (.object []) outer) (offset + 1) rest := by
  rw [readOn_mark (fun _ => rfl) rfl rfl rest]
  rfl

private theorem readOn_closeObject (read : List (Text × Value)) (outer : List Frame)
    (rest : List Point) :
    readOn limit (.behindMember read outer) offset (.char '\x7d' :: rest) =
      readOn limit (.delivered (.object (Entries.ofPairs read.reverse)) outer) (offset + 1)
        rest := by
  rw [readOn_mark (fun _ => rfl) rfl rfl rest]
  rfl

private theorem readOn_itemComma (sound : spacing.Sound) (read : List Value) (outer : List Frame)
    (rest : List Point) :
    readOn limit (.behindItem read outer) offset (spacing.comma.map .char ++ rest) =
      readOn limit (.valueDue (.items read :: outer)) (offset + spacing.comma.length) rest :=
  readOn_separator sound.comma (fun _ => rfl) rfl rfl rest

private theorem readOn_memberComma (sound : spacing.Sound) (read : List (Text × Value))
    (outer : List Frame) (rest : List Point) :
    readOn limit (.behindMember read outer) offset (spacing.comma.map .char ++ rest) =
      readOn limit (.keyDue read outer) (offset + spacing.comma.length) rest :=
  readOn_separator sound.comma (fun _ => rfl) rfl rfl rest

private theorem readOn_colon (sound : spacing.Sound) (read : List (Text × Value)) (key : Text)
    (outer : List Frame) (rest : List Point) :
    readOn limit (.colonDue read key outer) offset (spacing.colon.map .char ++ rest) =
      readOn limit (.valueDue (.members read key :: outer)) (offset + spacing.colon.length) rest :=
  readOn_separator sound.colon (fun _ => rfl) rfl rfl rest

private theorem readOn_key {read : List (Text × Value)} {outer : List Frame}
    (due : KeyDue limit read outer state) (key : Text) (rest : List Point) :
    readOn limit state offset ((writtenText key).map .char ++ rest) =
      readOn limit (.colonDue read (rejoined key) outer) (offset + (writtenText key).length)
        rest := by
  rw [readOn_token (firstToken_writtenText key offset rest) rfl rfl,
    due (.text (joined key.points)) offset nofun]
  rfl

-- The induction is on the value, for every state in which it may come next: the state in front of
-- the first item of a list is not the one in front of the others, but both take a value alike.
mutual

/-- What is written for a value where one is due is read as what the value is read back as. -/
private theorem readOn_write (sound : spacing.Sound) (value : Value) (outer : List Frame)
    (state : State) (due : ValueDue limit outer state) (offset : Nat) (rest : List Point)
    (ended : Ended rest) :
    readOn limit state offset ((write spacing value).map .char ++ rest) =
      reread limit outer.length value >>= fun found =>
        readOn limit (.delivered found outer) (offset + (write spacing value).length) rest := by
  match value with
  | .null =>
    have first : firstToken offset ((write spacing .null).map .char ++ rest) =
        (.constant .null, 4) := rfl
    exact readOn_scalar due first rfl rfl rfl nofun
  | .bool flag =>
    have first : firstToken offset ((write spacing (.bool flag)).map .char ++ rest) =
        (.constant (.bool flag), (write spacing (.bool flag)).length) := by cases flag <;> rfl
    exact readOn_scalar due first (by cases flag <;> rfl) rfl rfl nofun
  | .int number =>
    have visible := (wholeNumeral number).text_visible
    rw [← toList_toString_int] at visible
    exact readOn_scalar due (firstToken_int number offset ended) visible rfl
      (takeValue_int number outer) nofun
  | .float number =>
    exact readOn_scalar due (firstToken_double number offset ended) (write_visible number) rfl rfl
      nofun
  | .str text =>
    exact readOn_scalar due (firstToken_writtenText text offset rest) rfl rfl rfl nofun
  | .list items =>
    simp only [write, List.map_cons, List.map_append, List.map_nil, List.cons_append,
      List.append_assoc, List.nil_append, readOn_openList due, reread]
    split
    · rfl
    · by_cases none : items = []
      · subst none
        exact readOn_closeEmptyList outer rest
      · rw [readOn_writtenItems sound items none [] outer _ (valueDue_listOpened outer),
          bind_assoc]
        simp [Nat.add_right_comm _ 1, Nat.add_assoc]
  | .object entries =>
    simp only [write, List.map_cons, List.map_append, List.map_nil, List.cons_append,
      List.append_assoc, List.nil_append, readOn_openObject due, reread]
    split
    · rfl
    · by_cases none : entries = []
      · subst none
        exact readOn_closeEmptyObject outer rest
      · rw [readOn_writtenEntries sound entries none [] outer _ (keyDue_objectOpened outer),
          bind_assoc]
        simp [Nat.add_right_comm _ 1, Nat.add_assoc]

private theorem readOn_writtenItems (sound : spacing.Sound) (items : List Value)
    (some : items ≠ []) (read : List Value) (outer : List Frame) (state : State)
    (due : ValueDue limit (.items read :: outer) state) (offset : Nat) (rest : List Point) :
    readOn limit state offset
        ((write.writtenItems spacing items).map .char ++ .char ']' :: rest) =
      reread.rereadItems limit (outer.length + 1) items >>= fun found =>
        readOn limit (.delivered (.list (read.reverse ++ found)) outer)
          (offset + (write.writtenItems spacing items).length + 1) rest := by
  match items with
  | [item] =>
    rw [write.writtenItems, readOn_write sound item _ state due offset _ (ended_closeList rest)]
    simp [reread.rereadItems, State.delivered, readOn_closeList]
  | item :: next :: more =>
    have tail := readOn_writtenItems sound (next :: more) nofun
    simp only [write.writtenItems, List.map_append, List.append_assoc]
    rw [readOn_write sound item _ state due offset _ (sound.ended_comma _)]
    simp only [State.delivered, readOn_itemComma sound, tail _ outer _ (valueDue_valueDue _)]
    simp [reread.rereadItems, Nat.add_assoc]

private theorem readOn_writtenEntries (sound : spacing.Sound) (entries : List (Text × Value))
    (some : entries ≠ []) (read : List (Text × Value)) (outer : List Frame)
    (state : State) (due : KeyDue limit read outer state) (offset : Nat) (rest : List Point) :
    readOn limit state offset
        ((write.writtenEntries spacing entries).map .char ++ .char '\x7d' :: rest) =
      reread.rereadEntries limit (outer.length + 1) entries >>= fun found =>
        readOn limit (.delivered (.object (Entries.ofPairs (read.reverse ++ found))) outer)
          (offset + (write.writtenEntries spacing entries).length + 1) rest := by
  match entries with
  | [(key, value)] =>
    simp only [write.writtenEntries, List.map_append, List.append_assoc, readOn_key due,
      readOn_colon sound]
    rw [readOn_write sound value _ _ (valueDue_valueDue _) _ _ (ended_closeObject rest)]
    simp [reread.rereadEntries, State.delivered, readOn_closeObject, Nat.add_assoc]
  | (key, value) :: next :: more =>
    have tail := readOn_writtenEntries sound (next :: more) nofun
    simp only [write.writtenEntries, List.map_append, List.append_assoc, readOn_key due,
      readOn_colon sound]
    rw [readOn_write sound value _ _ (valueDue_valueDue _) _ _ (sound.ended_comma _)]
    simp only [State.delivered, readOn_memberComma sound, tail _ outer _ (keyDue_keyDue _ _)]
    simp [reread.rereadEntries, Nat.add_assoc]

end

/-- The text of a value is read as what the value is read back as, however it is spaced. -/
theorem valueWithin_write (sound : spacing.Sound) (limit : Nat) (value : Value) :
    valueWithin limit ((write spacing value).map .char) = reread limit 0 value := by
  have due : ValueDue limit [] (.valueDue []) := valueDue_valueDue []
  have read := readOn_write sound value [] _ due 0 [] (by simp [Ended])
  rw [List.append_nil] at read
  change (readOn limit (.valueDue []) 0 ((write spacing value).map .char) >>= fun state =>
    state.finish ((write spacing value).map Point.char).length) = _
  rw [read, bind_assoc]
  exact bind_pure (reread limit 0 value)

/-! ## Entries -/

/-- Entries are read back one by one, each under its key as that is read back. -/
theorem rereadEntries_eq_ok {limit depth : Nat} {entries found : List (Text × Value)} :
    reread.rereadEntries limit depth entries = .ok found ↔
      List.Forall₂ (fun entry read => read.1 = rejoined entry.1 ∧
        reread limit depth entry.2 = .ok read.2) entries found := by
  induction entries generalizing found with
  | nil => simp [reread.rereadEntries, eq_comm]
  | cons entry rest ih =>
    obtain ⟨key, value⟩ := entry
    simp only [reread.rereadEntries, bind_eq_ok, ih, pure_eq_ok, Except.ok.injEq,
      List.forall₂_cons_left_iff]
    constructor
    · rintro ⟨read, one, more, all, rfl⟩
      exact ⟨(rejoined key, read), more, ⟨rfl, one⟩, all, rfl⟩
    · rintro ⟨⟨other, read⟩, more, ⟨same, one⟩, all, rfl⟩
      cases same
      exact ⟨read, one, more, all, rfl⟩

/-- What comes back under the keys of an object, if they are distinct and come back themselves. -/
theorem get?_of_reread_object {limit depth : Nat} {entries found : Entries}
    (read : reread limit depth (.object entries) = .ok (.object found))
    (distinct : entries.keys.Nodup) (settled : ∀ key ∈ entries.keys, rejoined key = key)
    (held : entries.get? key = some value) :
    ∃ back, found.get? key = some back ∧ reread limit (depth + 1) value = .ok back := by
  rw [reread] at read
  split at read
  · cases read
  obtain ⟨pairs, each, same⟩ := bind_eq_ok.mp read
  have all := rereadEntries_eq_ok.mp each
  have keys : Entries.keys pairs = entries.keys := by
    clear read each distinct held same
    induction all with
    | nil => rfl
    | cons one _ ih =>
      obtain ⟨here, others⟩ := List.forall_mem_cons.mp settled
      simp only [Entries.keys, List.map_cons] at ih ⊢
      rw [one.1, here, ih others]
  rw [Entries.ofPairs_of_nodup (keys ▸ distinct)] at same
  cases same
  clear read each distinct keys
  induction all with
  | nil => cases held
  | @cons entry pair _ _ one _ ih =>
    obtain ⟨same, others⟩ := List.forall_mem_cons.mp settled
    rw [Entries.get?_cons] at held
    rw [Entries.get?_cons, one.1, same]
    by_cases here : entry.1 = key
    · rw [if_pos here] at held ⊢
      cases held
      exact ⟨_, rfl, one.2⟩
    · rw [if_neg here] at held ⊢
      exact ih others held

/-- An object comes back as the entries that its entries come back as, if their keys are
distinct. -/
theorem reread_object {limit depth : Nat} {entries found : Entries} (shallow : depth < limit)
    (distinct : found.keys.Nodup)
    (each : List.Forall₂ (fun entry read => read.1 = rejoined entry.1 ∧
      reread limit (depth + 1) entry.2 = .ok read.2) entries found) :
    reread limit depth (.object entries) = .ok (.object found) := by
  rw [reread, if_neg (Nat.not_le.mpr shallow), rereadEntries_eq_ok.mpr each, ok_bind,
    Entries.ofPairs_of_nodup distinct]
  rfl

private theorem length_toDigits_le {n most : Nat} (some : 0 < most) (small : n < Nat.pow 10 most) :
    (Nat.toDigits 10 n).length ≤ most :=
  (Nat.length_toDigits_le_iff (by decide) some).mpr small

/-- A whole number comes back as it is if it has no more digits than are read. -/
theorem reread_int {number : Int} (small : number.natAbs < Nat.pow 10 numeralLimit)
    (limit depth : Nat) : reread limit depth (.int number) = .ok (.int number) := by
  rw [reread]
  exact if_neg (Nat.not_lt.mpr (length_toDigits_le (by decide) small))

/-- A text without surrogates comes back as it is. -/
@[simp] theorem reread_whole (limit depth : Nat) (string : String) :
    reread limit depth (.str (.whole string)) = .ok (.str (.whole string)) := by
  rw [reread, rejoined_whole]

/-! ## Octets -/

/-- The text of an object starts with two characters of ASCII. -/
private theorem write_object_front (entries : List (Text × Value)) :
    ∃ second rest, Utf8.encode (write .compact (.object entries)) = 0x7B :: second :: rest ∧
      second ≠ 0 := by
  match entries with
  | [] => exact ⟨0x7D, [], rfl, by decide⟩
  | [(key, value)] => exact ⟨0x22, _, rfl, by decide⟩
  | (key, value) :: next :: more => exact ⟨0x22, _, rfl, by decide⟩

/-- A text whose first two characters are of ASCII, and not the zero, is found in its octets. -/
theorem textOfOctets_ascii {text : List Char} {first second : UInt8} {rest : List UInt8}
    (octets : Utf8.encode text = first :: second :: rest) (ascii : first < 0x80)
    (present : first ≠ 0) (visible : second ≠ 0) :
    textOfOctets (Utf8.encode text) = .ok (text.map .char) := by
  have encoding : encodingOf (first :: second :: rest) = .utf8 := by
    unfold encodingOf
    split
    · rename_i same
      cases same
      rw [if_neg present, if_neg visible]
    · rename_i same
      cases same
      rw [if_neg present, if_neg visible]
    · rfl
  have decoded := Utf8.decode_encode text
  rw [octets] at decoded ⊢
  -- no byte order mark starts with a character of ASCII other than the zero
  rw [textOfOctets, encoding, textIn, decoded] <;>
    · intro behind marked
      obtain ⟨rfl, -⟩ := List.cons.inj marked
      first
      | exact present rfl
      | exact absurd ascii (by decide)

private theorem textOfOctets_object (entries : List (Text × Value)) :
    textOfOctets (Utf8.encode (write .compact (.object entries))) =
      .ok ((write .compact (.object entries)).map .char) := by
  obtain ⟨second, rest, octets, visible⟩ := write_object_front entries
  exact textOfOctets_ascii octets (by decide) (by decide) visible

/-- The octets of an object are read as what the object is read back as. -/
theorem readOctets_object (entries : List (Text × Value)) :
    readOctets (Utf8.encode (write .compact (.object entries))) =
      (reread nestingLimit 0 (.object entries)).mapError
        fun fault => .notJson fault ((write .compact (.object entries)).map .char) := by
  rw [readOctets, textOfOctets_object]
  dsimp only
  rw [valueWithin_write Spacing.sound_compact]
  cases reread nestingLimit 0 (.object entries) <;> rfl

end SurveyDesk.Json
