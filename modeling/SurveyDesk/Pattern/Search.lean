import SurveyDesk.Pattern.Attempt
import SurveyDesk.Pattern.Basic

/-!
Searching a text for a pattern. The pattern is tried at one position after another. Where it starts
with a set for which letter case does not matter, only positions are tried whose character the set
holds under the flags of the whole pattern, whatever flags hold inside a group.
-/
namespace SurveyDesk.Pattern

/-- Whether a set member keeps a set from being looked up under the flags of the whole pattern. -/
def Member.hasCase (flags : Flags) : Member → Bool
  | .char point => isCased flags point
  | .range low high => anyCased flags low high || (flags.ignoreCase && lastFolded < high)
  | .kind _ _ => false

mutual

/-- The set that a part starts with, if letter case does not matter for it. -/
def Node.startingSet? (flags : Flags) : Node → Option (Bool × List Member)
  | .set negated members =>
    if members.any (Member.hasCase flags) then none else some (negated, members)
  | .group _ on off body => startingSetOf? (flags.within on off) body
  | _ => none

/-- The set that a sequence starts with. -/
def startingSetOf? (flags : Flags) : List Node → Option (Bool × List Member)
  | [] => none
  | node :: _ => node.startingSet? flags

end

/-- Whether a pattern is tried at a position at all. -/
def isCandidate (pattern : Pattern) (subject : Subject) (position : Nat) : Bool :=
  match startingSetOf? pattern.flags pattern.body with
  | some (negated, members) =>
    let flags := { pattern.flags with ignoreCase := false }
    subject.holdsAt (setHolds flags negated members) position
  | none => true

/-- What comes of trying a pattern at a position. -/
def tryAt (pattern : Pattern) (subject : Subject) (position : Nat) : Option Place :=
  if isCandidate pattern subject position then
    match attemptAll subject ⟨pattern.flags, false, none⟩ pattern.body arrived
        ⟨position, position, []⟩ with
    | .reached place => some place
    | .failed _ _ => none
  else none

/-- Whether a group ends before it starts. -/
def anyReversed : Borders → Bool
  | some first :: some last :: rest => last < first || anyReversed rest
  | _ :: _ :: rest => anyReversed rest
  | _ => false

/-- Whether a pattern is found anywhere in a text. -/
def occursIn (pattern : Pattern) (text : Text) : Except Fault Bool :=
  let subject : Subject := ⟨(text.points.map Point.code).toArray, pattern.groups⟩
  match (List.range (subject.text.size + 1)).findSome? (tryAt pattern subject) with
  | some place => if anyReversed place.borders then .error .groupReversed else .ok true
  | none => .ok false

end SurveyDesk.Pattern
