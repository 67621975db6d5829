import SurveyDesk.Proofs.Survey.Work
import SurveyDesk.Survey.Banner
import SurveyDesk.Survey.History
import SurveyDesk.Survey.Responses

/-! The operations that the desk serves, as data, and the desks that any sequence of them leads to.
Time passes between operations in steps of its own, and within them as is said beforehand. -/
namespace SurveyDesk

/-- The desk at which so many milliseconds pass after each of the next readings of the clock. -/
def Desk.paced (desk : Desk) (passing : List Int) : Desk :=
  { desk with time := { desk.time with passing } }

namespace Survey

/-- An operation with its arguments. -/
inductive Op where
  | add (title remark questionType : Value) (caller : Caller) (code : Value)
  | create (title remark questionType method source : Value) (caller : Caller)
  | update (id title remark : Value) (caller : Caller)
  | delete (id : Value) (caller : Caller)
  | list (number size : Int) (predicate : Value) (order : SortSpec) (caller : Caller)
  | saveConfig (id code : Value) (caller : Caller)
  | get (id : Value) (caller : Caller)
  | publish (id : Value) (caller : Caller)
  | addResponse (id answers : Value)
  | data (id : Value) (caller : Caller) (hide : Bool) (number size : Int)
  | bannerData (file : Option String)
  | addHistory (survey code type : Value) (caller : Caller)
  | historyList (survey type : Value)
  | wait (seconds : Int)
  | pace (passing : List Int)

/-- What an operation answers. -/
inductive Reply where
  | value (value : Value)
  | sheet (sheet : Sheet)
  | done

/-- The work of an operation. -/
def Op.perform : Op → Work Reply
  | .add title remark questionType caller code =>
    .value <$> Survey.add title remark questionType caller code
  | .create title remark questionType method source caller =>
    .value <$> Survey.create title remark questionType method source caller
  | .update id title remark caller => .value <$> Survey.update id title remark caller
  | .delete id caller => .value <$> Survey.delete id caller
  | .list number size predicate order caller =>
    .value <$> Survey.list number size predicate order caller
  | .saveConfig id code caller => .value <$> Survey.saveConfig id code caller
  | .get id caller => .value <$> Survey.get id caller
  | .publish id caller => .value <$> Survey.publish id caller
  | .addResponse id answers => .value <$> Survey.addResponse id answers
  | .data id caller hide number size => .sheet <$> Survey.data id caller hide number size
  | .bannerData file => .value <$> Survey.bannerData file
  | .addHistory survey code type caller => .value <$> Survey.addHistory survey code type caller
  | .historyList survey type => .value <$> Survey.historyList survey type
  | .wait seconds => do
    modify (·.later seconds)
    return .done
  | .pace passing => do
    modify (·.paced passing)
    return .done

/-- What an operation answers at a desk, or the fault that it stops with. -/
def Op.answer (op : Op) (desk : Desk) : Except Fault Reply := (op.perform.outcome desk).1

/-- The desk after an operation, failed or not. -/
def Op.after (op : Op) (desk : Desk) : Desk := (op.perform.outcome desk).2

/-- What several operations answer, one after another. -/
def Op.answers : List Op → Desk → List (Except Fault Reply)
  | [], _ => []
  | op :: rest, desk => op.answer desk :: answers rest (op.after desk)

/-- The desk after several operations, one after another. -/
def Op.run : List Op → Desk → Desk
  | [], desk => desk
  | op :: rest, desk => run rest (op.after desk)

/-- The desks that operations of a kind lead to from one without documents, in any order and
whether they fail or not. -/
inductive Reachable (allowed : Op → Prop) : Desk → Prop where
  | opened (clock : Int) : Reachable allowed (Desk.opened clock)
  | step (reached : Reachable allowed desk) (op : Op) (fits : allowed op) :
    Reachable allowed (op.after desk)

/-- Any operation with any arguments. -/
def Op.any (_ : Op) : Prop := True

theorem Reachable.run (reached : Reachable allowed desk) (ops : List Op)
    (fit : ∀ op ∈ ops, allowed op) : Reachable allowed (Op.run ops desk) := by
  induction ops generalizing desk with
  | nil => exact reached
  | cons op rest ih =>
    exact ih (reached.step op (fit op List.mem_cons_self)) fun other member =>
      fit other (List.mem_cons_of_mem _ member)

end Survey
end SurveyDesk
