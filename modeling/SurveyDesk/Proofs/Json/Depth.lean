import SurveyDesk.Json.Reader
import SurveyDesk.Proofs.Fault
import SurveyDesk.Proofs.Value.LastOn

/-! How deep the values are that are read. A list or an object is opened only where fewer are open
than may be, so what stands inside the open ones, and in the end the value as a whole, is nested no
deeper than the limit. -/
namespace SurveyDesk.Json

variable {limit : Nat} {outer : List Frame} {value : Value} {state next : State} {lexeme : Lexeme}

theorem itemsNesting_le {items : List Value} :
    nesting.itemsNesting items ≤ limit ↔ ∀ item ∈ items, nesting item ≤ limit := by
  induction items with
  | nil => simp [nesting.itemsNesting]
  | cons item rest ih => rw [nesting.itemsNesting, Nat.max_le, ih, List.forall_mem_cons]

theorem entriesNesting_le {entries : List (Text × Value)} :
    nesting.entriesNesting entries ≤ limit ↔ ∀ entry ∈ entries, nesting entry.2 ≤ limit := by
  induction entries with
  | nil => simp [nesting.entriesNesting]
  | cons entry rest ih => rw [nesting.entriesNesting, Nat.max_le, ih, List.forall_mem_cons]

/-! ## Constants -/

/-- A token that stands for no list and no object. -/
def Token.IsFlat : Token → Prop
  | .constant value => nesting value = 0
  | _ => True

theorem flat_readNumber {text : List Point} {token : Token} {length : Nat}
    (read : readNumber? text = some (token, length)) : token.IsFlat := by
  unfold readNumber? at read
  dsimp only at read
  repeat' split at read
  all_goals cases read
  all_goals trivial

theorem flat_firstToken (offset : Nat) (text : List Point) : (firstToken offset text).1.IsFlat := by
  unfold firstToken
  split
  case h_8 => split <;> trivial
  case h_9 =>
    split
    · rename_i found
      have listed := List.mem_of_find?_eq_some found
      simp only [words, List.mem_cons, Prod.mk.injEq, List.not_mem_nil, or_false] at listed
      rcases listed with ⟨-, rfl⟩ | ⟨-, rfl⟩ | ⟨-, rfl⟩ | ⟨-, rfl⟩ | ⟨-, rfl⟩ | ⟨-, rfl⟩ <;> rfl
    · cases read : readNumber? text with
      | none => trivial
      | some found => exact flat_readNumber read
  all_goals trivial

theorem flat_tokensFrom (steps offset : Nat) (text : List Point) :
    ∀ lexeme ∈ tokensFrom steps offset text, lexeme.token.IsFlat := by
  induction steps generalizing offset text with
  | zero => exact nofun
  | succ steps ih =>
    cases text with
    | nil => exact nofun
    | cons c rest =>
      rw [tokensFrom]
      split
      · exact ih _ _
      · have flat := flat_firstToken offset (c :: rest)
        generalize firstToken offset (c :: rest) = found at flat ⊢
        obtain ⟨token, length⟩ := found
        refine List.forall_mem_cons.mpr ⟨flat, ?_⟩
        split
        · exact nofun
        · exact ih _ _

/-! ## Open lists and objects -/

/-- The values that an open list or object holds so far. -/
def Frame.values : Frame → List Value
  | .items read => read
  | .members read _ => read.map Prod.snd

/-- Whether lists and objects that are open inside one another, the innermost first, stay within a
limit together with the values that they hold. -/
def FramesWithin (limit : Nat) : List Frame → Prop
  | [] => True
  | frame :: outer => outer.length < limit ∧
    (∀ value ∈ frame.values, nesting value + outer.length < limit) ∧ FramesWithin limit outer

/-- Whether a state stays within a limit. -/
def State.Within (limit : Nat) : State → Prop
  | .valueDue outer => FramesWithin limit outer
  | .listOpened outer => FramesWithin limit (.items [] :: outer)
  | .objectOpened outer => FramesWithin limit (.members [] "" :: outer)
  | .keyDue read outer | .behindMember read outer => FramesWithin limit (.members read "" :: outer)
  | .colonDue read key outer => FramesWithin limit (.members read key :: outer)
  | .behindItem read outer => FramesWithin limit (.items read :: outer)
  | .complete value => nesting value ≤ limit

theorem FramesWithin.length_le (within : FramesWithin limit outer) : outer.length ≤ limit := by
  cases outer with
  | nil => exact Nat.zero_le limit
  | cons frame outer => exact within.1

/-- A value that fits in is delivered. -/
theorem within_delivered (within : FramesWithin limit outer)
    (fits : nesting value + outer.length ≤ limit) : (State.delivered value outer).Within limit := by
  cases outer with
  | nil => exact fits
  | cons frame outer =>
    obtain ⟨room, values, outside⟩ := within
    rw [List.length_cons] at fits
    cases frame with
    | items read =>
      refine ⟨room, ?_, outside⟩
      exact List.forall_mem_cons.mpr ⟨by omega, values⟩
    | members read key =>
      refine ⟨room, ?_, outside⟩
      exact List.forall_mem_cons.mpr ⟨by dsimp only; omega, values⟩

/-- A scalar fits in everywhere. -/
theorem within_scalar (within : FramesWithin limit outer) (flat : nesting value = 0) :
    (State.delivered value outer).Within limit := by
  have room := within.length_le
  exact within_delivered within (by omega)

/-- A list fits in where its items fitted into it while it was open. -/
theorem within_list {read : List Value} (within : FramesWithin limit (.items read :: outer)) :
    (State.delivered (.list read.reverse) outer).Within limit := by
  obtain ⟨room, values, outside⟩ := within
  have inside : nesting.itemsNesting read.reverse ≤ limit - outer.length - 1 := by
    refine itemsNesting_le.mpr fun item member => ?_
    have fits := values item (List.mem_reverse.mp member)
    omega
  refine within_delivered outside ?_
  rw [nesting]
  omega

/-- An object fits in where its entries fitted into it while it was open. Of its entries some may
have been replaced. -/
theorem within_object {read : List (Text × Value)} {key : Text}
    (within : FramesWithin limit (.members read key :: outer)) :
    (State.delivered (.object (Entries.ofPairs read.reverse)) outer).Within limit := by
  obtain ⟨room, values, outside⟩ := within
  have inside : nesting.entriesNesting (Entries.ofPairs read.reverse) ≤
      limit - outer.length - 1 := by
    refine entriesNesting_le.mpr fun entry member => ?_
    have given := mem_of_lastOn (Entries.mem_ofPairs_iff.mp member)
    have fits := values entry.2 (List.mem_map_of_mem (List.mem_reverse.mp given))
    omega
  refine within_delivered outside ?_
  rw [nesting]
  omega

/-! ## Reading -/

theorem within_takeValue (flat : lexeme.token.IsFlat) (within : FramesWithin limit outer)
    (taken : State.takeValue limit outer lexeme = .ok next) : next.Within limit := by
  unfold State.takeValue at taken
  split at taken
  · split at taken
    · cases taken
    · rename_i room
      cases taken
      exact ⟨Nat.lt_of_not_le room, nofun, within⟩
  · split at taken
    · cases taken
    · rename_i room
      cases taken
      exact ⟨Nat.lt_of_not_le room, nofun, within⟩
  · cases taken
    exact within_scalar within rfl
  · rename_i here
    cases taken
    rw [here] at flat
    exact within_scalar within flat
  · split at taken
    · cases taken
    · cases taken
      exact within_scalar within rfl
  · cases taken
  · cases taken

theorem within_takeKey {read : List (Text × Value)}
    (within : FramesWithin limit (.members read "" :: outer))
    (taken : State.takeKey read outer lexeme = .ok next) : next.Within limit := by
  unfold State.takeKey at taken
  split at taken
  · cases taken
    exact within
  all_goals cases taken

/-- A token that is taken leads from a state within the limit to another. -/
theorem within_take (flat : lexeme.token.IsFlat) (within : state.Within limit)
    (taken : state.take limit lexeme = .ok next) : next.Within limit := by
  cases state with
  | valueDue outer => exact within_takeValue flat within taken
  | keyDue read outer => exact within_takeKey within taken
  | complete value => cases taken
  | listOpened outer =>
    rw [State.take] at taken
    split at taken
    · cases taken
      exact within_list within
    · exact within_takeValue flat within taken
  | objectOpened outer =>
    rw [State.take] at taken
    split at taken
    · cases taken
      exact within_object within
    · exact within_takeKey within taken
  | colonDue read key outer =>
    rw [State.take] at taken
    split at taken
    · cases taken
      exact within
    · cases taken
  | behindItem read outer =>
    rw [State.take] at taken
    split at taken
    · cases taken
      exact within
    · cases taken
      exact within_list within
    · cases taken
  | behindMember read outer =>
    rw [State.take] at taken
    split at taken
    · cases taken
      exact within
    · cases taken
      exact within_object within
    · cases taken

theorem within_run {lexemes : List Lexeme} (flat : ∀ lexeme ∈ lexemes, lexeme.token.IsFlat)
    (within : state.Within limit)
    (ran : lexemes.foldlM (State.take limit) state = .ok next) : next.Within limit := by
  induction lexemes generalizing state with
  | nil =>
    cases ran
    exact within
  | cons lexeme rest ih =>
    obtain ⟨here, later⟩ := List.forall_mem_cons.mp flat
    rw [List.foldlM_cons] at ran
    obtain ⟨between, taken, ran⟩ := bind_eq_ok.mp ran
    exact ih later (within_take here within taken) ran

/-- What is read is nested no deeper than the limit. -/
theorem nesting_le_of_read {text : List Point} (read : readWithin limit text = .ok value) :
    nesting value ≤ limit := by
  unfold readWithin at read
  split at read
  · cases read
  · obtain ⟨final, ran, finished⟩ := bind_eq_ok.mp read
    have start : (State.valueDue []).Within limit := trivial
    have within := within_run (flat_tokensFrom text.length 0 text) start ran
    cases final <;> cases finished
    exact within

end SurveyDesk.Json
