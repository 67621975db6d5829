/-!
The flags of a search pattern. They are set for the whole pattern at its start, or for a group.
-/
namespace SurveyDesk.Pattern

/-- Which flags are on. `ascii` and `unicode` say which characters the classes know. -/
structure Flags where
  ignoreCase : Bool
  multiline : Bool
  dotAll : Bool
  verbose : Bool
  ascii : Bool
  unicode : Bool
  template : Bool
  deriving DecidableEq, Repr, Inhabited

namespace Flags

/-- No flag at all. -/
def none : Flags := ⟨false, false, false, false, false, false, false⟩

/-- The flags of two sets together. -/
def union (a b : Flags) : Flags where
  ignoreCase := a.ignoreCase || b.ignoreCase
  multiline := a.multiline || b.multiline
  dotAll := a.dotAll || b.dotAll
  verbose := a.verbose || b.verbose
  ascii := a.ascii || b.ascii
  unicode := a.unicode || b.unicode
  template := a.template || b.template

/-- The flags that are in the first set and not in the second. -/
def without (a b : Flags) : Flags where
  ignoreCase := a.ignoreCase && !b.ignoreCase
  multiline := a.multiline && !b.multiline
  dotAll := a.dotAll && !b.dotAll
  verbose := a.verbose && !b.verbose
  ascii := a.ascii && !b.ascii
  unicode := a.unicode && !b.unicode
  template := a.template && !b.template

/-- Whether two sets have a flag in common. -/
def meets (a b : Flags) : Bool :=
  (a.ignoreCase && b.ignoreCase) || (a.multiline && b.multiline) || (a.dotAll && b.dotAll)
    || (a.verbose && b.verbose) || (a.ascii && b.ascii) || (a.unicode && b.unicode)
    || (a.template && b.template)

/-- Whether a flag that says which characters the classes know is on. -/
def hasType (flags : Flags) : Bool := flags.ascii || flags.unicode

/-- The flags inside a group that turns some on and some off. -/
def within (outer on off : Flags) : Flags :=
  let outer := if on.hasType then outer.without { Flags.none with ascii := true, unicode := true }
    else outer
  (outer.union on).without off

/-- The flag that a letter stands for. The letter `L` is read like the others, but no text
pattern may use it. -/
def ofLetter? : Char → Option Flags
  | 'i' => some { none with ignoreCase := true }
  | 'm' => some { none with multiline := true }
  | 's' => some { none with dotAll := true }
  | 'x' => some { none with verbose := true }
  | 'a' => some { none with ascii := true }
  | 'u' => some { none with unicode := true }
  | 't' => some { none with template := true }
  | 'L' => some none
  | _ => Option.none

end Flags
end SurveyDesk.Pattern
