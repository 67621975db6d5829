import SurveyDesk.Pattern.Node

/-!
How many characters a part of a pattern can take, as a least and a greatest number. A text that is
looked at backwards must have one width.
-/
namespace SurveyDesk.Pattern

/-- The least and the greatest number of characters. -/
structure Width where
  least : Nat
  most : Nat
  deriving DecidableEq, Repr, Inhabited

namespace Width

/-- The number that stands for a width without bound. -/
def unbounded : Nat := Nat.pow 2 32 - 1

/-- The width of nothing. -/
def zero : Width := ⟨0, 0⟩

/-- One width after another. -/
def add (a b : Width) : Width := ⟨a.least + b.least, a.most + b.most⟩

/-- Either of two widths. -/
def either (a b : Width) : Width := ⟨min a.least b.least, max a.most b.most⟩

/-- A width that is counted no further than bounds go. -/
def capped (a : Width) : Width := ⟨min a.least (unbounded - 1), min a.most unbounded⟩

/-- A width repeated. -/
def times (a : Width) (least : Nat) (most : Option Nat) : Width where
  least := a.least * least
  most := a.most * most.getD unbounded

end Width

/-- The width of a closed group, nothing for a group that is open. -/
abbrev GroupWidths := List (Option Width)

mutual

/-- The width of a part, where the widths of the groups it refers to are known. -/
def Node.width (groups : GroupWidths) : Node → Width
  | .char _ _ | .set _ _ | .anyChar => ⟨1, 1⟩
  | .anchor _ | .lookaround _ _ _ => .zero
  | .group _ _ _ body | .atomic body => sequenceWidth groups body
  | .repetition _ least most body => (sequenceWidth groups body).times least most
  | .alternatives branches => branchesWidth groups branches
  | .reference group => ((groups[group]?).getD none).getD .zero
  | .conditional _ present absent =>
    (sequenceWidth groups present).either (sequenceWidth groups absent)

/-- The width of a sequence. -/
def sequenceWidth (groups : GroupWidths) : List Node → Width
  | [] => .zero
  | node :: rest => ((node.width groups).add (sequenceWidth groups rest)).capped

/-- The width of any of several sequences. -/
def branchesWidth (groups : GroupWidths) : List (List Node) → Width
  | [] => .zero
  | [only] => sequenceWidth groups only
  | branch :: rest => (sequenceWidth groups branch).either (branchesWidth groups rest)

end

end SurveyDesk.Pattern
