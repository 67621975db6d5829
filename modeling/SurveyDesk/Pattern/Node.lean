import SurveyDesk.Pattern.Flags

/-!
The parts that a search pattern is made of. Characters are code points.
-/
namespace SurveyDesk.Pattern

/-- A class of characters. -/
inductive Kind where
  | digit
  | space
  | word
  deriving DecidableEq, Repr

/-- A member of a character set: a code point, a range of them, or a class or its complement. -/
inductive Member where
  | char (point : Nat)
  | range (low high : Nat)
  | kind (kind : Kind) (negated : Bool)
  deriving DecidableEq, Repr

/-- A place in the text that matches without taking a character. -/
inductive Anchor where
  | lineStart
  | lineEnd
  | textStart
  | textEnd
  | boundary
  | notBoundary
  deriving DecidableEq, Repr

/-- How many repetitions are tried first: as many as there are, as few, or as many without ever
giving one back. -/
inductive Greed where
  | greedy
  | lazy
  | possessive
  deriving DecidableEq, Repr

/-- A part of a pattern. A sequence is a list of parts. -/
inductive Node where
  | char (negated : Bool) (point : Nat)
  | set (negated : Bool) (members : List Member)
  | anyChar
  | anchor (anchor : Anchor)
  | group (index : Option Nat) (on off : Flags) (body : List Node)
  | repetition (greed : Greed) (least : Nat) (most : Option Nat) (body : List Node)
  | alternatives (branches : List (List Node))
  | lookaround (behind negated : Bool) (body : List Node)
  | atomic (body : List Node)
  | reference (group : Nat)
  | conditional (group : Nat) (present absent : List Node)
  deriving Repr, Inhabited

namespace Node

/-- The set of members, of which a repeated one counts once. A single character needs no set. -/
def ofMembers (negated : Bool) (members : List Member) : Node :=
  match members.eraseDups with
  | [.char point] => .char negated point
  | members => .set negated members

/-- The sequence that a group stands for if it neither is numbered nor has flags. -/
def unwrapped : Node → List Node
  | .group none on off body =>
    if on = Flags.none ∧ off = Flags.none then body else [.group none on off body]
  | node => [node]

/-- Whether two parts without parts of their own are the same. A negated look at nothing is one. -/
def isSame : Node → Node → Bool
  | .char n a, .char m b => n = m && a = b
  | .set n a, .set m b => n = m && a = b
  | .anyChar, .anyChar => true
  | .anchor a, .anchor b => a = b
  | .reference a, .reference b => a = b
  | .lookaround _ true [], .lookaround _ true [] => true
  | _, _ => false

/-- The parts that a sequence and others all start with, and what is left of each. -/
def sharedStart : List Node → List (List Node) → List Node × List (List Node)
  | [], others => ([], [] :: others)
  | node :: rest, others =>
    if others.all fun other => (other.head?).any node.isSame then
      let (start, branches) := sharedStart rest (others.map (List.drop 1))
      (node :: start, branches)
    else ([], (node :: rest) :: others)

/-- The members of a set that a single part stands for. -/
def members? : List Node → Option (List Member)
  | [.char false point] => some [.char point]
  | [.set false members] => some members
  | _ => none

/-- Several sequences as one, which starts with what they all start with. Sequences of single
characters make up a set. -/
def ofBranches : List (List Node) → List Node
  | [] => []
  | [only] => only
  | first :: others =>
    let (start, branches) := sharedStart first others
    match branches.mapM members? with
    | some members => start ++ [.set false members.flatten.eraseDups]
    | none => start ++ [.alternatives branches]

end Node

end SurveyDesk.Pattern
