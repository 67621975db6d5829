import SurveyDesk.Pattern.CharacterSet
import SurveyDesk.Pattern.InlineFlags
import SurveyDesk.Text.Numeral
import SurveyDesk.Unicode.Identifier

/-!
The grammar of a search pattern: alternatives, the sequences that they consist of, repetitions and
groups. Groups hold alternatives again, so the readers call one another; every call spends one of
`steps`, and a pattern needs no more calls than a few for each of its characters.
-/
namespace SurveyDesk.Pattern.Reading

/-- Numbers of repetitions must be below this one. -/
def repetitionLimit : Nat := Nat.pow 2 32 - 1

/-- The most digits that a number may be written with. -/
def numeralLimit : Nat := 4300

/-- A number of repetitions. -/
def repetitionCount (digits : List Char) : Reading Nat := do
  if numeralLimit < digits.length then throw (.numeralTooLong digits.length)
  else
    let count := inBase 10 digits
    if repetitionLimit ≤ count then throw .repetitionTooLarge else return count

/-- The bounds of a repetition in braces, read from behind the opening one. Braces that hold
anything else stand for themselves, and then nothing behind the opening one has been read. -/
def bracedBounds : Reading (Option (Nat × Option Nat)) := do
  let before ← get
  if (← peek).any (·.is '\x7d') then return none
  else
    let low ← takeAll isDigitSign
    let high ← if ← accept ',' then takeAll isDigitSign else pure low
    if ← accept '\x7d' then
      let least ← if low.isEmpty then pure 0 else repetitionCount low
      if high.isEmpty then return some (least, none)
      else
        let most ← repetitionCount high
        if most < least then failAt .minimumAboveMaximum before.position
        else return some (least, some most)
    else
      set before
      return none

/-- How a repetition proceeds, by the mark behind it. -/
def greed : Reading Greed := do
  if ← accept '?' then return .lazy
  else if ← accept '+' then return .possessive
  else return .greedy

/-- Refuses to repeat nothing, an anchor or a repetition. -/
def checkRepeated (read : List Node) (position : Nat) : Reading Node := do
  match read with
  | [] | .anchor _ :: _ => failAt .nothingToRepeat position
  | .repetition _ _ _ _ :: _ => failAt .multipleRepeat position
  | node :: _ => return node

/-- The bounds that a sign of repetition stands for, nothing where it stands for itself. -/
def boundsOf (sign : Char) : Reading (Option (Nat × Option Nat)) :=
  match sign with
  | '*' => return some (0, none)
  | '+' => return some (1, none)
  | '?' => return some (0, some 1)
  | _ => bracedBounds

/-- The parts read so far, last first, after a sign of repetition. -/
def repeated (sign : Char) (read : List Node) : Reading (List Node) := do
  let start := (← position) - 1
  match ← boundsOf sign with
  | none => return .char false sign.toNat :: read
  | some (least, most) =>
    let node ← checkRepeated read start
    return .repetition (← greed) least most node.unwrapped :: read.drop 1

/-- The number of a group by its name. -/
def groupNamed (name : List Point) : Reading Nat := do
  match (← get).names.lookup name with
  | some group => return group
  | none => failBack (.unknownGroupName name) (name.length + 1)

/-- Refuses a group name that is no identifier. -/
def checkGroupName (name : List Point) : Reading Unit := do
  if !Unicode.isIdentifier name then failBack (.badGroupName name) (name.length + 1)

/-- A reference to a group by its name. -/
def namedReference : Reading Node := do
  let name ← name ')' "group name"
  checkGroupName name
  let group ← groupNamed name
  if !(← isClosed group) then failBack .openGroup (name.length + 1)
  else
    checkLookbehind group
    return .reference group

/-- Group numbers must be below this one. -/
def groupLimit : Nat := Nat.pow 2 30 - 1

/-- The group that a condition asks for, by name or by number. A number may be that of a group
that is still to come. -/
def conditionGroup : Reading Nat := do
  let name ← name ')' "group name"
  if Unicode.isIdentifier name then
    let group ← groupNamed name
    checkLookbehind group
    return group
  else
    match (Point.chars? name).bind Numeral.whole? with
    | some (.ofNat group) =>
      if group = 0 then failBack .badGroupNumber (name.length + 1)
      else if groupLimit ≤ group then failBack (.unknownGroup group) (name.length + 1)
      else
        modify fun progress =>
          if (progress.conditionGroups.lookup group).isSome then progress
          else
            { progress with
              conditionGroups :=
                progress.conditionGroups ++ [(group, progress.position - name.length - 1)] }
        checkLookbehind group
        return group
    | _ => failBack (.badGroupName name) (name.length + 1)

/-- Opens a group and gives it the next number. -/
def openGroup (name : Option (List Point)) : Reading Nat := do
  let progress ← get
  let group := progress.groups.length
  match name with
  | none =>
    set { progress with groups := progress.groups ++ [none] }
    return group
  | some name =>
    match progress.names.lookup name with
    | some old => failBack (.groupRedefined name group old) (name.length + 1)
    | none =>
      set { progress with
            groups := progress.groups ++ [none], names := progress.names ++ [(name, group)] }
      return group

/-- Closes a group. -/
def closeGroup (group : Nat) (body : List Node) : Reading Unit :=
  modify fun progress =>
    { progress with
      groups := progress.groups.set group (some (sequenceWidth progress.groups body)) }

/-- Takes the parenthesis that closes what was opened at a position. -/
def closeParenthesis (start : Nat) : Reading Unit := do
  if !(← accept ')') then failAt .unterminatedGroup start

/-- The next mark, which must be there. -/
def nextOfGroup : Reading Mark := do
  match ← next with
  | some mark => return mark
  | none => failHere .unexpectedEnd

/-- The white space that a verbose pattern may hold. -/
def isVerboseSpace (c : Char) : Bool :=
  c = ' ' || c = '\t' || c = '\n' || c = '\r' || c = '\x0b' || c = '\x0c'

/-- What a parenthesis opens, as far as it can be told before its content is read. -/
inductive Opening where
  | done (node : Option Node)
  | flagsSet
  | group (name : Option (List Point)) (capturing : Bool) (on off : Flags)
  | atomic
  | look (behind negated : Bool)
  | condition (group : Nat)

/-- How many calls are open for the content of a group: those for its alternatives and for the
sequence in them, or only the latter behind a condition. -/
def Opening.calls : Opening → Nat
  | .condition _ => 1
  | _ => 2

/-- Reads what stands between a parenthesis and its content; `start` is the position of the
parenthesis, and `atFront` whether flags for the whole pattern may stand here. -/
def opening (start : Nat) (atFront : Bool) : Reading Opening := do
  let plain (name : Option (List Point)) (capturing : Bool) : Opening :=
    .group name capturing Flags.none Flags.none
  if !(← accept '?') then return plain none true
  else
    let mark ← nextOfGroup
    if mark.is 'P' then
      if ← accept '<' then
        let name ← name '>' "group name"
        checkGroupName name
        return plain (some name) true
      else if ← accept '=' then return .done (some (← namedReference))
      else
        let mark ← nextOfGroup
        failBack (.unknownExtension (.char '?' :: .char 'P' :: mark.text)) (mark.length + 2)
    else if mark.is ':' then return plain none false
    else if mark.is '#' then
      if ← skipPast ')' ((← get).ahead.length + 1) then return .done none
      else failAt .unterminatedComment start
    else if mark.is '=' then return .look false false
    else if mark.is '!' then return .look false true
    else if mark.is '<' then
      let mark ← nextOfGroup
      if mark.is '=' then return .look true false
      else if mark.is '!' then return .look true true
      else failBack (.unknownExtension (.char '?' :: .char '<' :: mark.text)) (mark.length + 2)
    else if mark.is '(' then return .condition (← conditionGroup)
    else if mark.is '>' then return .atomic
    else if mark.is '-' || (flagLetter? mark).isSome then
      match ← inlineFlags mark with
      | some (on, off) => return .group none false on off
      | none => if atFront then return .flagsSet else failAt .flagsNotAtStart start
    else failBack (.unknownExtension (.char '?' :: mark.text)) (mark.length + 1)

mutual

/-- Alternatives; `top` says that they are the whole pattern, whose flags may still change. -/
def alternatives : (steps : Nat) → (verbose top : Bool) → Reading (List Node)
  | 0, _, _ => failHere .unexpectedEnd
  | steps + 1, verbose, top => do
    let first ← sequence steps verbose top []
    furtherAlternatives steps verbose top [first]

/-- The alternatives behind those read so far, which are kept last first. -/
def furtherAlternatives : (steps : Nat) → (verbose top : Bool) → (read : List (List Node)) →
    Reading (List Node)
  | 0, _, _, _ => failHere .unexpectedEnd
  | steps + 1, verbose, top, read => do
    if ← accept '|' then
      let verbose ← if top then pure (← get).flags.verbose else pure verbose
      let following ← sequence steps verbose false []
      furtherAlternatives steps verbose top (following :: read)
    else
      return Node.ofBranches read.reverse

/-- A sequence up to a bar, a closing parenthesis or the end; what has been read of it is kept
last first. Flags for the whole pattern may stand only at the very front. -/
def sequence : (steps : Nat) → (verbose front : Bool) → (read : List Node) → Reading (List Node)
  | 0, _, _, _ => failHere .unexpectedEnd
  | steps + 1, verbose, front, read => do
    match ← peek with
    | none => return read.reverse.flatMap Node.unwrapped
    | some mark =>
      if mark.is '|' || mark.is ')' then return read.reverse.flatMap Node.unwrapped
      else
        let _ ← next
        if verbose && mark.isA isVerboseSpace then sequence steps verbose front read
        else if verbose && mark.is '#' then
          let _ ← skipPast '\n' ((← get).ahead.length + 1)
          sequence steps verbose front read
        else
          match mark with
          | ⟨true, .char c⟩ => sequence steps verbose front ((← nodeEscape c) :: read)
          | ⟨false, .char '['⟩ => sequence steps verbose front ((← characterSet) :: read)
          | ⟨false, .char '.'⟩ => sequence steps verbose front (.anyChar :: read)
          | ⟨false, .char '^'⟩ => sequence steps verbose front (.anchor .lineStart :: read)
          | ⟨false, .char '$'⟩ => sequence steps verbose front (.anchor .lineEnd :: read)
          | ⟨false, .char '*'⟩ => sequence steps verbose front (← repeated '*' read)
          | ⟨false, .char '+'⟩ => sequence steps verbose front (← repeated '+' read)
          | ⟨false, .char '?'⟩ => sequence steps verbose front (← repeated '?' read)
          | ⟨false, .char '\x7b'⟩ => sequence steps verbose front (← repeated '\x7b' read)
          | ⟨false, .char '('⟩ =>
            let start := (← position) - 1
            match ← opening start (front && read.isEmpty) with
            | .done node => sequence steps verbose front (node.toList ++ read)
            | .flagsSet => sequence steps (← get).flags.verbose front read
            | opened =>
              let node ← inside opened.calls (content steps verbose start opened)
              sequence steps verbose front (node :: read)
          | ⟨_, point⟩ => sequence steps verbose front (.char false point.code :: read)

/-- The content of a group and its closing parenthesis. -/
def content : (steps : Nat) → (verbose : Bool) → (start : Nat) → Opening → Reading Node
  | 0, _, _, _ => failHere .unexpectedEnd
  | steps + 1, verbose, start, opened => do
    match opened with
    | .group name capturing on off =>
      let index ← if capturing then some <$> openGroup name else pure none
      let body ← alternatives steps ((verbose || on.verbose) && !off.verbose) false
      closeParenthesis start
      if let some index := index then closeGroup index body
      return .group index on off body
    | .atomic =>
      let body ← alternatives steps verbose false
      closeParenthesis start
      return .atomic body
    | .look behind negated =>
      let outside := (← get).lookbehindGroups
      if behind && outside.isNone then
        modify fun progress => { progress with lookbehindGroups := some progress.groups.length }
      let body ← alternatives steps verbose false
      if behind && outside.isNone then
        modify fun progress => { progress with lookbehindGroups := none }
      closeParenthesis start
      return .lookaround behind negated body
    | .condition group =>
      let present ← sequence steps verbose false []
      let absent ← if ← accept '|' then sequence steps verbose false [] else pure []
      if (← peek).any (·.is '|') then failHere .tooManyBranches
      else
        closeParenthesis start
        return .conditional group present absent
    | .done _ | .flagsSet => failHere .unexpectedEnd

end

end SurveyDesk.Pattern.Reading
