import SurveyDesk.Proofs.Fault
import SurveyDesk.Store.Predicate

/-! Predicates entry by entry. An object is an operator only if it has the keys of one, and what is
expected as an operator, as a predicate or as a plain value is asked for in three different ways. -/
namespace SurveyDesk.Predicate

/-- Whether a document satisfies one entry of a predicate. -/
def entryHolds (document : Value) (entry : Text × Value) : Except Fault Bool :=
  if entry.1 = orKey then alternativesHold document entry.2
  else expectedHolds (document.at? entry.1) entry.2

theorem holds_object (document : Value) (entries : Entries) :
    holds document (.object entries) = holdsAll document entries := by
  rw [holds]

theorem holdsAll_nil (document : Value) : holdsAll document [] = .ok true := by
  rw [holdsAll]

theorem holdsAll_cons (document : Value) (entry : Text × Value) (rest : List (Text × Value)) :
    holdsAll document (entry :: rest) = do
      if ← entryHolds document entry then holdsAll document rest else return false := by
  obtain ⟨key, expected⟩ := entry
  rw [holdsAll, entryHolds]
  split <;> rfl

theorem alternativesHold_list (document : Value) (branches : List Value) :
    alternativesHold document (.list branches) = holdsAny document branches := by
  rw [alternativesHold]

theorem holdsAny_nil (document : Value) : holdsAny document [] = .ok false := by
  rw [holdsAny]

theorem holdsAny_cons (document branch : Value) (rest : List Value) :
    holdsAny document (branch :: rest) = (do
      if ← holds document branch then return true else holdsAny document rest) := by
  rw [holdsAny]

theorem fragment?_fragment (operator : Operator) (operand : Value) :
    fragment? [(operatorKey, .str operator.name), (operandKey, operand)] =
      .ok (some (operator, operand)) := by
  cases operator <;> rfl

/-- What lacks a key of an operator is none. -/
theorem fragment?_of_missing {entries : Entries}
    (missing : entries.get? operatorKey = none ∨ entries.get? operandKey = none) :
    fragment? entries = .ok none := by
  unfold fragment?
  split
  · rfl
  · rcases missing with missing | missing
    · rw [missing]
    · rw [missing]
      split <;> first | rfl | cases ‹none = some _›

theorem expectedHolds_fragment (actual : Option Value) (operator : Operator) (operand : Value) :
    expectedHolds actual (operator.fragment operand) = operator.holds actual operand := by
  unfold Operator.fragment expectedHolds
  rw [fragment?_fragment]
  rfl

/-- An object that is no operator is asked of the object at a path. -/
theorem expectedHolds_predicate {entries : Entries} (apart : fragment? entries = .ok none)
    (actual : Option Value) :
    expectedHolds actual (.object entries) =
      match actual with
      | some (.object inner) => holdsAll (.object inner) entries
      | _ => .ok false := by
  unfold expectedHolds
  rw [apart]
  rfl

end SurveyDesk.Predicate
