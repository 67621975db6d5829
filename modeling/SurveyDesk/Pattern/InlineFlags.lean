import SurveyDesk.Pattern.Escape
import SurveyDesk.Unicode.Letter

/-!
Flags written into a pattern: letters that turn flags on, and behind a hyphen letters that turn
flags off. Closed at once they hold for the whole pattern, behind a colon for a group.
-/
namespace SurveyDesk.Pattern.Reading

/-- What an unexpected mark among flags is reported as: a letter is no flag, anything else means
that something is missing. -/
def flagFault {α : Type} (mark : Mark) (missing : Cause) : Reading α :=
  let isLetter := mark.isA fun c => Unicode.isLetter c.toNat
  failBack (if isLetter then .unknownFlag else missing) mark.length

/-- The letter of a flag, nothing for another mark. -/
def flagLetter? (mark : Mark) : Option Char :=
  match mark with
  | ⟨false, .char c⟩ => if (Flags.ofLetter? c).isSome then some c else none
  | _ => none

/-- How a run of flags that are turned on ends. -/
inductive FlagsEnd where
  | close
  | hyphen
  | colon
  deriving DecidableEq

/-- Flags that are turned on, from the letter of the first. -/
def flagsOn : (steps : Nat) → (letter : Char) → (on : Flags) → Reading (Flags × FlagsEnd)
  | 0, _, _ => failHere .flagsUnclosed
  | steps + 1, letter, on => do
    if letter = 'L' then failHere .localeFlag
    else
      let on := on.union ((Flags.ofLetter? letter).getD Flags.none)
      if on.ascii && on.unicode then failHere .clashingTypeFlags
      else
        match ← next with
        | none => failHere .flagsUnclosed
        | some mark =>
          if mark.is ')' then return (on, .close)
          else if mark.is '-' then return (on, .hyphen)
          else if mark.is ':' then return (on, .colon)
          else
            match flagLetter? mark with
            | none => flagFault mark .flagsUnclosed
            | some letter => flagsOn steps letter on

/-- Flags that are turned off, from the letter of the first up to the colon. -/
def flagsOff : (steps : Nat) → (letter : Char) → (off : Flags) → Reading Flags
  | 0, _, _ => failHere .flagsWithoutColon
  | steps + 1, letter, off => do
    let flag := (Flags.ofLetter? letter).getD Flags.none
    if letter = 'L' || flag.hasType then failHere .typeFlagOff
    else
      let off := off.union flag
      match ← next with
      | none => failHere .flagsWithoutColon
      | some mark =>
        if mark.is ':' then return off
        else
          match flagLetter? mark with
          | none => flagFault mark .flagsWithoutColon
          | some letter => flagsOff steps letter off

/-- The flags that a group turns on and off, read from their first mark on, which is a flag's
letter or a hyphen. Flags for the whole pattern are added to those it has, and nothing is
returned. -/
def inlineFlags (first : Mark) : Reading (Option (Flags × Flags)) := do
  let steps := (← get).ahead.length + 1
  let (on, ending) ←
    match flagLetter? first with
    | none => pure (Flags.none, FlagsEnd.hyphen)
    | some letter => flagsOn steps letter Flags.none
  if ending = .close then
    modify fun progress => { progress with flags := progress.flags.union on }
    return none
  else if on.template then failBack .globalFlagOn 1
  else
    let off ←
      if ending = .hyphen then
        match ← next with
        | none => failHere .noFlag
        | some mark =>
          match flagLetter? mark with
          | none => flagFault mark .noFlag
          | some letter => flagsOff steps letter Flags.none
      else pure Flags.none
    if off.template then failBack .globalFlagOff 1
    else if on.meets off then failBack .flagOnAndOff 1
    else return some (on, off)

end SurveyDesk.Pattern.Reading
