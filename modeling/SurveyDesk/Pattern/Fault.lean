import SurveyDesk.Value.Literal

/-!
What can be wrong with a search pattern, and how it is reported. Most faults have a place in the
pattern; the few that are found only after the whole pattern has been read have none.
-/
namespace SurveyDesk.Pattern

/-- What is wrong with a pattern. Parts of the pattern are kept as they are written there. -/
inductive Cause where
  | trailingBackslash
  | badEscape (text : List Point)
  | incompleteEscape (text : List Point)
  | octalTooLarge (text : List Point)
  | missingBrace
  | unknownCharacterName (name : List Point)
  | missingName (what : String)
  | unterminatedName (closing : Char)
  | badGroupName (name : List Point)
  | unknownGroupName (name : List Point)
  | groupRedefined (name : List Point) (group old : Nat)
  | badGroupNumber
  | unknownGroup (number : Int)
  | openGroup
  | groupInSameLookbehind
  | unterminatedSet
  | badRange (low high : List Point)
  | minimumAboveMaximum
  | nothingToRepeat
  | multipleRepeat
  | unexpectedEnd
  | unknownExtension (text : List Point)
  | unterminatedComment
  | unterminatedGroup
  | unbalancedParenthesis
  | tooManyBranches
  | flagsNotAtStart
  | localeFlag
  | clashingTypeFlags
  | unknownFlag
  | flagsUnclosed
  | noFlag
  | flagsWithoutColon
  | globalFlagOn
  | globalFlagOff
  | typeFlagOff
  | flagOnAndOff
  | lookbehindNotFixed
  | repeatInTemplate (operator : String)
  deriving DecidableEq, Repr

/-- Why a pattern is not used. `nameWithSurrogate` is a character asked for by a name that has no
octets, `nestedTooDeeply` a pattern with more groups inside one another than the stack has room for.
The last cause comes up only in a search: a group is found to end before it starts. -/
inductive Fault where
  | malformed (cause : Cause) (position : Option Nat)
  | repetitionTooLarge
  | numeralTooLong (digits : Nat)
  | codePointTooLarge
  | clashingGlobalFlags
  | lookbehindTooWide
  | nameWithSurrogate (name : List Point)
  | nestedTooDeeply
  | groupReversed
  deriving DecidableEq, Repr

/-- The wording of a cause. -/
def Cause.message : Cause → Text
  | .trailingBackslash => "bad escape (end of pattern)"
  | .badEscape text => "bad escape " ++ Text.ofPoints text
  | .incompleteEscape text => "incomplete escape " ++ Text.ofPoints text
  | .octalTooLarge text =>
    "octal escape value " ++ Text.ofPoints text ++ " outside of range 0-0o377"
  | .missingBrace => "missing \x7b"
  | .unknownCharacterName name => "undefined character name " ++ Text.ofChars (Literal.quoted name)
  | .missingName what => "missing " ++ what
  | .unterminatedName closing => "missing " ++ String.singleton closing ++ ", unterminated name"
  | .badGroupName name => "bad character in group name " ++ Text.ofChars (Literal.quoted name)
  | .unknownGroupName name => "unknown group name " ++ Text.ofChars (Literal.quoted name)
  | .groupRedefined name group old =>
    "redefinition of group name " ++ Text.ofChars (Literal.quoted name)
      ++ (" as group " ++ toString group ++ "; was group " ++ toString old)
  | .badGroupNumber => "bad group number"
  | .unknownGroup number => "invalid group reference " ++ toString number
  | .openGroup => "cannot refer to an open group"
  | .groupInSameLookbehind => "cannot refer to group defined in the same lookbehind subpattern"
  | .unterminatedSet => "unterminated character set"
  | .badRange low high => "bad character range " ++ Text.ofPoints (low ++ .char '-' :: high)
  | .minimumAboveMaximum => "min repeat greater than max repeat"
  | .nothingToRepeat => "nothing to repeat"
  | .multipleRepeat => "multiple repeat"
  | .unexpectedEnd => "unexpected end of pattern"
  | .unknownExtension text => "unknown extension " ++ Text.ofPoints text
  | .unterminatedComment => "missing ), unterminated comment"
  | .unterminatedGroup => "missing ), unterminated subpattern"
  | .unbalancedParenthesis => "unbalanced parenthesis"
  | .tooManyBranches => "conditional backref with more than two branches"
  | .flagsNotAtStart => "global flags not at the start of the expression"
  | .localeFlag => "bad inline flags: cannot use 'L' flag with a str pattern"
  | .clashingTypeFlags => "bad inline flags: flags 'a', 'u' and 'L' are incompatible"
  | .unknownFlag => "unknown flag"
  | .flagsUnclosed => "missing -, : or )"
  | .noFlag => "missing flag"
  | .flagsWithoutColon => "missing :"
  | .globalFlagOn => "bad inline flags: cannot turn on global flag"
  | .globalFlagOff => "bad inline flags: cannot turn off global flag"
  | .typeFlagOff => "bad inline flags: cannot turn off flags 'a', 'u' and 'L'"
  | .flagOnAndOff => "bad inline flags: flag turned on and off"
  | .lookbehindNotFixed => "look-behind requires fixed-width pattern"
  | .repeatInTemplate operator => "internal: unsupported template operator " ++ operator

/-- The report of a cause at a position; a pattern of several lines also has the line and the
column named. -/
def Cause.report (cause : Cause) (position : Option Nat) (pattern : Text) : Text :=
  match position with
  | none => cause.message
  | some position =>
    let newline := Point.char '\n'
    let before := pattern.points.take position
    let line := before.count newline + 1
    let column := (before.reverse.takeWhile (· ≠ newline)).length + 1
    cause.message ++ (" at position " ++ toString position)
      ++ (if pattern.points.contains newline then
        " (line " ++ toString line ++ ", column " ++ toString column ++ ")"
      else "")

end SurveyDesk.Pattern
