import SurveyDesk.Proofs.Survey.Documents
import SurveyDesk.Proofs.Survey.Refinement

/-! What a run adds. Responses and history records are never changed and never taken away. A run
adds one for every operation that hands one in and is answered: with what the operation says, the id
that its answer tells, and the time at which it was made. No two of them have one id. -/
namespace SurveyDesk.Survey

namespace Op

/-- The id that the answer to an operation tells, if it tells one. -/
def toldId? (op : Op) (desk : Desk) : Option Text :=
  match op.answer desk with
  | .ok (.value answer) => textAt? "_id" answer
  | _ => none

/-- The response that an operation hands in at a desk, if it is answered. -/
def response? (desk : Desk) : Op → Option Response
  | .addResponse survey answers =>
    ((Op.addResponse survey answers).toldId? desk).map fun id =>
      ⟨id, survey, answers, desk.now⟩
  | _ => none

/-- The history record that an operation makes at a desk, if it is answered. -/
def snapshot? (desk : Desk) : Op → Option Snapshot
  | .addHistory survey code value caller => do
    let type ← (HistoryType.ofValue value).toOption
    let id ← (Op.addHistory survey code value caller).toldId? desk
    return ⟨id, survey, type, code, caller, desk.now⟩
  | _ => none

/-- What the operations of a run add, one after another, each at the desk that it is made at. -/
def additions {α : Type} (adds? : Desk → Op → Option α) : List Op → Desk → List α
  | [], _ => []
  | op :: rest, desk => (adds? desk op).toList ++ additions adds? rest (op.after desk)

end Op

namespace Ledger

variable {desk : Desk} {ledger : Ledger} {op : Op}

/-! ## One operation -/

theorem response?_of_fault {fault : Fault} (failed : op.answer desk = .error fault) :
    op.response? desk = none := by
  cases op with
  | addResponse => rw [Op.response?, Op.toldId?, failed, Option.map_none]
  | _ => rfl

theorem snapshot?_of_fault {fault : Fault} (failed : op.answer desk = .error fault) :
    op.snapshot? desk = none := by
  cases op with
  | addHistory survey code value caller =>
    rw [Op.snapshot?, Op.toldId?, failed]
    cases HistoryType.ofValue value <;> rfl
  | _ => rfl

theorem none_of_reads (reads : op.OnlyReads) :
    op.response? desk = none ∧ op.snapshot? desk = none := by
  cases op <;> first | exact ⟨rfl, rfl⟩ | cases reads

theorem responses_perform (shows : Shows desk ledger) (sound : ledger.Sound) (op : Op) :
    (ledger.perform op).2.responses = ledger.responses ++ (op.response? desk).toList := by
  have answered := answer_eq shows sound op
  have step := step_perform ledger op
  generalize (ledger.perform op).1 = answer at answered step
  generalize (ledger.perform op).2 = after at step ⊢
  cases step with
  | failed => rw [response?_of_fault answered, Option.toList_none, List.append_nil]
  | read _ reads => rw [(none_of_reads reads).1, Option.toList_none, List.append_nil]
  | responded id answers =>
    rw [Op.response?, Op.toldId?, answered, now_of_shows shows]
    rfl
  | _ => exact (List.append_nil _).symm

theorem snapshots_perform (shows : Shows desk ledger) (sound : ledger.Sound) (op : Op) :
    (ledger.perform op).2.snapshots = ledger.snapshots ++ (op.snapshot? desk).toList := by
  have answered := answer_eq shows sound op
  have step := step_perform ledger op
  generalize (ledger.perform op).1 = answer at answered step
  generalize (ledger.perform op).2 = after at step ⊢
  cases step with
  | failed => rw [snapshot?_of_fault answered, Option.toList_none, List.append_nil]
  | read _ reads => rw [(none_of_reads reads).2, Option.toList_none, List.append_nil]
  | recorded survey code value type caller named =>
    rw [Op.snapshot?, named, Op.toldId?, answered, now_of_shows shows]
    rfl
  | _ => exact (List.append_nil _).symm

/-! ## A run -/

/-- What every operation adds to a part of the ledger, a run adds to it from left to right. -/
theorem run_additions {α : Type} {part : Ledger → List α} {adds? : Desk → Op → Option α}
    (step : ∀ {desk : Desk} {ledger : Ledger}, Shows desk ledger → ledger.Sound →
      ∀ op, part (ledger.perform op).2 = part ledger ++ (adds? desk op).toList)
    (shows : Shows desk ledger) (sound : ledger.Sound) (ops : List Op) :
    part (ledger.run ops) = part ledger ++ Op.additions adds? ops desk := by
  induction ops generalizing desk ledger with
  | nil => exact (List.append_nil _).symm
  | cons op rest ih =>
    rw [run, ih (shows_after shows sound op) (sound_perform sound op), step shows sound op,
      Op.additions, List.append_assoc]

/-- No two responses have one id, and no two history records. -/
structure Distinct (ledger : Ledger) : Prop where
  responses : (ledger.responses.map Response.id).Nodup
  snapshots : (ledger.snapshots.map Snapshot.id).Nodup

theorem distinct_perform (sound : ledger.Sound) (distinct : ledger.Distinct) (op : Op) :
    (ledger.perform op).2.Distinct := by
  have step := step_perform ledger op
  generalize (ledger.perform op).1 = answer at step
  generalize (ledger.perform op).2 = after at step ⊢
  cases step with
  | responded =>
    refine ⟨?_, distinct.snapshots⟩
    rw [List.map_append]
    exact nodup_nextId distinct.responses (List.forall_mem_map.mpr sound.responses)
  | recorded =>
    refine ⟨distinct.responses, ?_⟩
    rw [List.map_append]
    exact nodup_nextId distinct.snapshots (List.forall_mem_map.mpr sound.snapshots)
  | _ => exact ⟨distinct.responses, distinct.snapshots⟩

theorem distinct_run (sound : ledger.Sound) (distinct : ledger.Distinct) (ops : List Op) :
    (ledger.run ops).Distinct := by
  induction ops generalizing ledger with
  | nil => exact distinct
  | cons op rest ih => exact ih (sound_perform sound op) (distinct_perform sound distinct op)

end Ledger

/-- The responses that are handed in by a run from a desk without documents. -/
def Op.responses (ops : List Op) (clock : Int) : List Response :=
  additions response? ops (Desk.opened clock)

/-- The history records that are made by a run from a desk without documents. -/
def Op.snapshots (ops : List Op) (clock : Int) : List Snapshot :=
  additions snapshot? ops (Desk.opened clock)

/-- The ledger that a desk shows after a run holds exactly what was handed in. -/
structure Ledger.Collects (ledger : Ledger) (ops : List Op) (clock : Int) : Prop where
  responses : ledger.responses = Op.responses ops clock
  snapshots : ledger.snapshots = Op.snapshots ops clock
  distinct : ledger.Distinct

theorem collects_run (ops : List Op) (clock : Int) :
    ((Ledger.opened clock).run ops).Collects ops clock where
  responses := Ledger.run_additions Ledger.responses_perform (shows_opened clock)
    (Ledger.sound_opened clock) ops
  snapshots := Ledger.run_additions Ledger.snapshots_perform (shows_opened clock)
    (Ledger.sound_opened clock) ops
  distinct := Ledger.distinct_run (Ledger.sound_opened clock) ⟨List.nodup_nil, List.nodup_nil⟩ ops

end SurveyDesk.Survey
