import SurveyDesk.Survey.Desk

/-! What an operation at the desk comes to: its answer or its fault, and the desk as it is then. An
operation in steps stops at the first fault and keeps what was changed before it. -/
namespace SurveyDesk.Work

/-- What an operation gives and the desk that it leaves. -/
def outcome (work : Work α) (desk : Desk) : Except Fault α × Desk := work.run.run desk

@[simp] theorem outcome_pure (answer : α) (desk : Desk) :
    outcome (pure answer) desk = (.ok answer, desk) := rfl

@[simp] theorem outcome_throw (fault : Fault) (desk : Desk) :
    outcome (throw fault : Work α) desk = (.error fault, desk) := rfl

theorem outcome_bind (work : Work α) (next : α → Work β) (desk : Desk) :
    outcome (work >>= next) desk =
      match outcome work desk with
      | (.ok answer, after) => outcome (next answer) after
      | (.error fault, after) => (.error fault, after) := by
  have unfolded : outcome (work >>= next) desk =
      outcome (ExceptT.mk (work.run >>= ExceptT.bindCont next)) desk := rfl
  rw [unfolded]
  simp only [outcome, ExceptT.run, ExceptT.mk, StateT.run_bind]
  simp only [StateT.run]
  cases work desk with
  | mk answer after => cases answer <;> rfl

@[simp] theorem outcome_map (change : α → β) (work : Work α) (desk : Desk) :
    outcome (change <$> work) desk =
      ((outcome work desk).1.map change, (outcome work desk).2) := by
  rw [map_eq_pure_bind, outcome_bind]
  cases outcome work desk with
  | mk answer after => cases answer <;> rfl

/-- Work that only reads, followed by work that only reads. -/
theorem outcome_read_bind {work : Work α} {next : α → Work β} {rest : α → Except Fault β}
    {desk : Desk} (first : outcome work desk = (found, desk))
    (second : ∀ answer, found = .ok answer → outcome (next answer) desk = (rest answer, desk)) :
    outcome (work >>= next) desk = (found >>= rest, desk) := by
  rw [outcome_bind, first]
  cases found with
  | error fault => rfl
  | ok answer => exact second answer rfl

@[simp] theorem outcome_ofOutcome (result : Except Fault α) (desk : Desk) :
    outcome (ofOutcome result) desk = (result, desk) := rfl

@[simp] theorem outcome_refuse (code : RefusalCode) (message : Text) (desk : Desk) :
    outcome (refuse code message : Work α) desk =
      (.error (.refused code message), desk) := rfl

@[simp] theorem outcome_now (desk : Desk) :
    outcome now desk = (.ok desk.now, { desk with time := desk.time.read }) := rfl

@[simp] theorem outcome_freshId (desk : Desk) :
    outcome freshId desk = (.ok (.str ("id" ++ toString (desk.idsGiven + 1) : String)),
      { desk with idsGiven := desk.idsGiven + 1 }) := rfl

@[simp] theorem outcome_get (desk : Desk) : outcome MonadState.get desk = (.ok desk, desk) := rfl

theorem outcome_insert (name : Text) (document : Value) (desk : Desk) :
    outcome (insert name document) desk =
      match desk.store.insert name document with
      | .ok store => (.ok (), { desk with store })
      | .error fault => (.error fault, desk) := by
  simp only [insert, outcome_bind, outcome_get, outcome_ofOutcome]
  cases desk.store.insert name document <;> rfl

theorem outcome_update (name : Text) (id changes : Value) (desk : Desk) :
    outcome (update name id changes) desk =
      match desk.store.update name id changes with
      | .ok none => (.ok none, desk)
      | .ok (some (store, document)) => (.ok (some document), { desk with store })
      | .error fault => (.error fault, desk) := by
  simp only [update, outcome_bind, outcome_get, outcome_ofOutcome]
  cases desk.store.update name id changes with
  | error fault => rfl
  | ok changed => cases changed <;> rfl

theorem outcome_copy (calls : Nat) (value : Value) (desk : Desk) :
    outcome (copy calls value) desk =
      (if Copyable calls value then .ok () else .error .tooDeep, desk) := by
  unfold copy
  split <;> rfl

theorem outcome_insertCopy_ok (fits : Copyable calls document) :
    outcome (insertCopy calls name document) desk = outcome (insert name document) desk := by
  rw [insertCopy, outcome_bind, outcome_copy, if_pos fits]

/-- What is nested too deeply is not inserted. -/
theorem outcome_insertCopy_tooDeep (deep : ¬ Copyable calls document) :
    outcome (insertCopy calls name document) desk = (.error .tooDeep, desk) := by
  rw [insertCopy, outcome_bind, outcome_copy, if_neg deep]

theorem outcome_updateCopy (calls : Nat) (name : Text) (id changes : Value) (desk : Desk) :
    outcome (updateCopy calls name id changes) desk =
      if (Keyed.get? id (desk.store.collection name)).isSome ∧ ¬ Copyable calls changes then
        (.error .tooDeep, desk)
      else outcome (update name id changes) desk := by
  simp only [updateCopy, outcome_bind, outcome_get]
  cases (Keyed.get? id (desk.store.collection name)).isSome with
  | false => simp
  | true => by_cases fits : Copyable calls changes <;> simp [outcome_bind, outcome_copy, fits]

theorem outcome_insert_ok (desk : Desk) (inserted : desk.store.insert name document = .ok store) :
    outcome (insert name document) desk = (.ok (), { desk with store }) := by
  rw [outcome_insert, inserted]

theorem outcome_update_some
    (updated : desk.store.update name key changes = .ok (some (store, document))) :
    outcome (update name key changes) desk = (.ok (some document), { desk with store }) := by
  rw [outcome_update, updated]

theorem outcome_update_none (absent : desk.store.update name key changes = .ok none) :
    outcome (update name key changes) desk = (.ok none, desk) := by
  rw [outcome_update, absent]

/-- Only what can be a key names a document that is to be changed. -/
theorem outcome_update_not_key (unfit : key.isKey = false) :
    outcome (update name key changes) desk = (.error .wrongKind, desk) := by
  have refused : desk.store.update name key changes = .error .wrongKind := by
    simp [Store.update, unfit]
  rw [outcome_update, refused]

@[simp] theorem outcome_findOne (name : Text) (predicate : Value) (desk : Desk) :
    outcome (findOne name predicate) desk = (desk.store.findOne name predicate, desk) := rfl

@[simp] theorem outcome_find (name : Text) (predicate : Value) (sort : SortSpec)
    (number size : Int) (scope : Option Value) (desk : Desk) :
    outcome (find name predicate sort number size scope) desk =
      (desk.store.find name predicate sort number size scope, desk) := rfl

end SurveyDesk.Work
