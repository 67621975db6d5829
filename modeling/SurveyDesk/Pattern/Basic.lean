import SurveyDesk.Pattern.Sequence

/-!
Search patterns. A pattern is read as a whole first; then its flags are settled, and then it is
checked for repetitions that its flags forbid and for texts that cannot be looked at backwards.
-/
namespace SurveyDesk

/-- A search pattern: its flags, its parts and the widths of its groups. -/
structure Pattern where
  flags : Pattern.Flags
  groups : Pattern.GroupWidths
  body : List Pattern.Node
  deriving Repr

namespace Pattern

/-- The word for a repetition that a pattern with the template flag may not hold. -/
def Greed.operator : Greed → String
  | .greedy => "MAX_REPEAT"
  | .lazy => "MIN_REPEAT"
  | .possessive => "POSSESSIVE_REPEAT"

mutual

/-- Refuses repetitions under the template flag and backward looks at texts of no fixed width. The
outcome is the width of the longest text that is looked at backwards. -/
def Node.check (groups : GroupWidths) (template : Bool) : Node → Except Fault Nat
  | .repetition greed _ _ body =>
    if template then .error (.malformed (.repeatInTemplate greed.operator) none)
    else checkSequence groups template body
  | .lookaround behind _ body =>
    let width := sequenceWidth groups body
    if behind ∧ width.least ≠ width.most then .error (.malformed .lookbehindNotFixed none)
    else (max (if behind then width.least else 0)) <$> checkSequence groups template body
  | .group _ _ _ body | .atomic body => checkSequence groups template body
  | .alternatives branches => checkBranches groups template branches
  | .conditional _ present absent => do
    return max (← checkSequence groups template present) (← checkSequence groups template absent)
  | .char _ _ | .set _ _ | .anyChar | .anchor _ | .reference _ => .ok 0

/-- Checks the parts of a sequence in order. -/
def checkSequence (groups : GroupWidths) (template : Bool) : List Node → Except Fault Nat
  | [] => .ok 0
  | node :: rest => do
    return max (← node.check groups template) (← checkSequence groups template rest)

/-- Checks several sequences in order. -/
def checkBranches (groups : GroupWidths) (template : Bool) : List (List Node) → Except Fault Nat
  | [] => .ok 0
  | branch :: rest => do
    return max (← checkSequence groups template branch) (← checkBranches groups template rest)

end

/-- The width from which on no text can be looked at backwards. -/
def lookbehindLimit : Nat := Nat.pow 2 31

/-- A whole pattern from its marks, with the group widths that the checks need. -/
def Reading.whole (steps : Nat) : Reading Pattern := do
  checkDangling
  let body ← alternatives steps false true
  let progress ← get
  if progress.flags.ascii && progress.flags.unicode then throw .clashingGlobalFlags
  else if (← peek).isSome then failHere .unbalancedParenthesis
  else
    match progress.conditionGroups.find? fun entry => progress.groups.length ≤ entry.1 with
    | some (group, position) => failAt (.unknownGroup group) position
    | none =>
      let flags := { progress.flags with unicode := !progress.flags.ascii }
      match checkSequence progress.groups flags.template body with
      | .ok width =>
        if lookbehindLimit ≤ width then throw .lookbehindTooWide
        else return ⟨flags, progress.groups, body⟩
      | .error fault => throw fault

/-- The pattern that a text stands for. -/
def ofText (text : Text) : Except Fault Pattern :=
  let points := text.points
  let (ahead, dangling) := marks points
  let start : Progress := {
    ahead, dangling, position := 0, length := points.length, flags := Flags.none, names := [],
    groups := [none], lookbehindGroups := none, conditionGroups := [], calls := 0 }
  (·.1) <$> (Reading.whole (4 * points.length + 8)).run start

end Pattern
end SurveyDesk
