import SurveyDesk.Pattern.Membership
import SurveyDesk.Pattern.Width

/-!
Trying the parts of a pattern. A part is tried at a place and hands each place that it reaches, in
order of preference, to what follows it; the first from which everything behind matches is taken.
A trial leaves traces even where it fails: the foothold, which is the position from which a choice
was tried last, and borders of groups. A possessive repetition goes on from the foothold of the
round that failed.
-/
namespace SurveyDesk.Pattern

/-- The text that is searched, as code points, and the widths of the pattern's groups, which say how
far back a backward look starts. -/
structure Subject where
  text : Array Nat
  groups : GroupWidths

/-- Where the groups start and end: the start of the first, its end, the start of the second and so
on, up to the last border that has been passed. -/
abbrev Borders := List (Option Nat)

/-- How far trying has come. -/
structure Place where
  position : Nat
  foothold : Nat
  borders : Borders
  deriving Repr

/-- What comes of a trial. -/
inductive Outcome where
  | reached (place : Place)
  | failed (foothold : Nat) (borders : Borders)
  deriving Repr

/-- What is tried at a place. -/
abbrev Trial := Place → Outcome

/-- What is known of a part where it stands: the flags, whether a repetition encloses it, and the
character that the pattern goes on with, if it is fixed. -/
structure Setting where
  flags : Flags
  inRepetition : Bool
  following : Option Nat

/-! ## Places and outcomes -/

/-- A failure that leaves everything as it is. -/
def Place.fail (place : Place) : Outcome := .failed place.foothold place.borders

/-- A place whose position is the foothold. -/
def Place.standing (place : Place) : Place := { place with foothold := place.position }

/-- Borders after one has been passed at a position. -/
def Borders.pass (borders : Borders) (border position : Nat) : Borders :=
  if border < borders.length then borders.set border (some position)
  else borders ++ (List.replicate (border - borders.length) none ++ [some position])

/-- A place where a border is passed. -/
def Place.passing (place : Place) (border : Nat) : Place :=
  { place with borders := Borders.pass place.borders border place.position }

/-- The start and the end of a group that has been passed. -/
def Place.group? (place : Place) (group : Nat) : Option (Nat × Nat) := do
  let first ← (place.borders[2 * group - 2]?).join
  let last ← (place.borders[2 * group - 1]?).join
  if first ≤ last then some (first, last) else none

/-- The end of a trial of its own. -/
def arrived : Trial := fun place => .reached place.standing

/-- The borders that are kept after a choice that failed: inside a repetition those from before it,
elsewhere those that came up in it, as far as there were borders before. -/
def Setting.kept (setting : Setting) (before after : Borders) : Borders :=
  if setting.inRepetition then before else after.take before.length

/-- An outcome, or what is done after its failure. -/
@[inline] def Outcome.orElse (outcome : Outcome) (other : Nat → Borders → Outcome) : Outcome :=
  match outcome with
  | .reached place => .reached place
  | .failed foothold borders => other foothold borders

/-- A trial whose failure leaves the foothold where it starts. -/
def fromHere (trial : Trial) : Trial := fun place =>
  (trial place).orElse fun _ borders => .failed place.position borders

/-- The rest behind an outcome that is settled: only the place that was reached counts. -/
def settle (outcome : Outcome) (rest : Trial) : Outcome :=
  match outcome with
  | .reached place => rest place
  | .failed foothold borders => .failed foothold borders

/-! ## Single characters -/

/-- The code point at a position. -/
def Subject.pointAt? (subject : Subject) (position : Nat) : Option Nat := subject.text[position]?

/-- Whether there is a character at a position that satisfies a test. -/
@[inline] def Subject.holdsAt (subject : Subject) (test : Nat → Bool) (position : Nat) : Bool :=
  if _inside : position < subject.text.size then test subject.text[position] else false

/-- Takes one character that satisfies a test. -/
def takeOne (subject : Subject) (test : Nat → Bool) (rest : Trial) : Trial := fun place =>
  if subject.holdsAt test place.position then rest { place with position := place.position + 1 }
  else place.fail

/-- Whether the characters before and behind a position differ in being word characters. -/
def isBoundary (subject : Subject) (flags : Flags) (position : Nat) : Bool :=
  let isWord (point : Option Nat) := point.any fun point => Kind.word.holds flags.ascii point
  let before := if position = 0 then none else subject.pointAt? (position - 1)
  isWord before != isWord (subject.pointAt? position)

/-- Whether an anchor holds at a position. An empty text has neither boundaries nor places that
are none. -/
def Anchor.holds (subject : Subject) (flags : Flags) (position : Nat) : Anchor → Bool
  | .textStart => position = 0
  | .textEnd => position = subject.text.size
  | .lineStart =>
    position = 0 || (flags.multiline && subject.pointAt? (position - 1) = some lineFeed)
  | .lineEnd =>
    position = subject.text.size ||
      (subject.pointAt? position = some lineFeed
        && (flags.multiline || position + 1 = subject.text.size))
  | .boundary => subject.text.size ≠ 0 && isBoundary subject flags position
  | .notBoundary => subject.text.size ≠ 0 && !isBoundary subject flags position

/-- Takes the text that stands at `source`, so many characters long, once more. -/
def takeAgain (subject : Subject) (flags : Flags) (rest : Trial) :
    (count source : Nat) → Trial
  | 0, _ => rest
  | count + 1, source => fun place =>
    let test (here : Nat) : Bool :=
      (subject.pointAt? source).any fun there => compared flags there = compared flags here
    if subject.holdsAt test place.position then
      takeAgain subject flags rest count (source + 1) { place with position := place.position + 1 }
    else place.fail

/-! ## Repetitions of single characters -/

/-- A part that takes one character: the test of it, and whether counting how often the part matches
takes the foothold along. -/
structure Single where
  test : Nat → Bool
  movesFoothold : Bool

/-- A part that takes one character, under its flags. -/
def Node.single? (flags : Flags) (node : Node) : Option Single := do
  return ⟨← node.test? flags, node.isFolded flags⟩

/-- The foothold after so many characters have been counted from a position. -/
def Single.footholdAfter (single : Single) (position count : Nat) : Nat :=
  if single.movesFoothold then position + count else position

/-- How many characters from a position on satisfy a test, at most `limit`. -/
def run (subject : Subject) (test : Nat → Bool) : (limit position : Nat) → Nat
  | 0, _ => 0
  | limit + 1, position =>
    if subject.holdsAt test position then run subject test limit (position + 1) + 1 else 0

/-- How many repetitions there is room for at a position. -/
def roomAt (subject : Subject) (most : Option Nat) (position : Nat) : Nat :=
  let left := subject.text.size - position
  match most with
  | some most => min most left
  | none => left

/-- Whether a position holds the character that the pattern goes on with, where that is fixed. -/
def Setting.allows (setting : Setting) (subject : Subject) (position : Nat) : Bool :=
  match setting.following with
  | some wanted => subject.holdsAt (· = wanted) position
  | none => true

/-- The rest behind `extra` characters from a position, or behind fewer. Where the character is
fixed that the rest starts with, only places before it are tried. -/
def giveBack (subject : Subject) (setting : Setting) (before : Borders) (rest : Trial)
    (position : Nat) : (extra foothold : Nat) → Borders → Outcome
  | extra, foothold, borders =>
    let here := position + extra
    let tried : Outcome :=
      if setting.allows subject here then
        (rest ⟨here, here, borders⟩).orElse fun foothold after =>
          .failed foothold (setting.kept before after)
      else .failed foothold borders
    tried.orElse fun foothold borders =>
      match extra with
      | 0 => .failed foothold borders
      | extra + 1 => giveBack subject setting before rest position extra foothold borders

/-- The rest at a position, or behind more characters that satisfy a test, at most `extra`. -/
def takeMore (subject : Subject) (setting : Setting) (single : Single) (before : Borders)
    (rest : Trial) : (extra position : Nat) → Borders → Outcome
  | extra, position, borders =>
    (rest ⟨position, position, borders⟩).orElse fun _ after =>
      let borders := setting.kept before after
      if subject.holdsAt single.test position then
        match extra with
        | 0 => .failed (single.footholdAfter position 1) borders
        | extra + 1 => takeMore subject setting single before rest extra (position + 1) borders
      else .failed position borders

/-- Repeats a part that takes one character. -/
def repeatChar (subject : Subject) (setting : Setting) (single : Single) (greed : Greed)
    (least : Nat) (most : Option Nat) (rest : Trial) : Trial := fun place =>
  let start := place.position
  let limit := roomAt subject most start
  if subject.text.size - start < least then place.fail
  else
    let count := run subject single.test (if greed = .lazy then least else limit) start
    let foothold := single.footholdAfter start count
    if count < least then .failed foothold place.borders
    else
      match greed with
      | .greedy =>
        giveBack subject setting place.borders rest (start + least) (count - least) foothold
          place.borders
      | .lazy =>
        takeMore subject setting single place.borders rest (limit - least) (start + least)
          place.borders
      | .possessive => rest ⟨start + count, foothold, place.borders⟩

/-! ## Other repetitions -/

/-- A part tried a fixed number of times. -/
def exactly (round : Trial → Trial) (rest : Trial) : (count : Nat) → Trial
  | 0 => rest
  | count + 1 => fun place => fromHere (round (exactly round rest count)) place.standing

/-- Further rounds first, then the rest. `last` is where the round before started; a round that took
nothing is not followed by another. -/
def asMany (round : Trial → Trial) (rest : Trial) : (rounds : Nat) → (last : Option Nat) → Trial
  | 0, _ => fun place => fromHere rest place.standing
  | rounds + 1, last => fun place =>
    let place := place.standing
    if last = some place.position then fromHere rest place
    else
      (round (asMany round rest rounds (some place.position)) place).orElse fun _ _ =>
        fromHere rest place

/-- The rest first, then further rounds. -/
def asFew (setting : Setting) (round : Trial → Trial) (rest : Trial) :
    (rounds : Nat) → (last : Option Nat) → Trial
  | rounds, last => fun place =>
    let place := place.standing
    (rest place).orElse fun _ after =>
      let place := { place with borders := setting.kept place.borders after }
      match rounds with
      | 0 => place.fail
      | rounds + 1 =>
        if last = some place.position then place.fail
        else fromHere (round (asFew setting round rest rounds (some place.position))) place

/-- The place that is reached by rounds each of which is settled before the next. A round that fails
moves the place to its foothold. -/
def settled (round : Trial) : (rounds : Nat) → (last : Option Nat) → Place → Place
  | 0, _, place => place
  | rounds + 1, last, place =>
    if last = some place.position then place
    else
      match round place with
      | .reached reached => settled round rounds (some place.position) reached
      | .failed foothold _ => ⟨foothold, foothold, place.borders⟩

/-- How many rounds beyond the least number may be tried at a position. -/
def roundsAt (subject : Subject) (least : Nat) (most : Option Nat) (position : Nat) : Nat :=
  let left := subject.text.size - position + 1
  match most with
  | some most => min (most - least) left
  | none => left

/-! ## Starts of sequences -/

mutual

/-- The part that comes first in a part, inside groups without a number, and its flags. -/
def Node.leading? (flags : Flags) : Node → Option (Flags × Node)
  | .group none on off body => leadingOf? (flags.within on off) body
  | node => some (flags, node)

/-- The part that comes first in a sequence. -/
def leadingOf? (flags : Flags) : List Node → Option (Flags × Node)
  | [] => none
  | node :: rest => (node.leading? flags) <|> leadingOf? flags rest

end

/-- The character that a sequence starts with, if it is fixed; what follows an empty sequence is
known. -/
def startOf (flags : Flags) (following : Option Nat) (nodes : List Node) : Option Nat :=
  match leadingOf? flags nodes with
  | some (flags, node) => node.fixedChar? flags
  | none => following

/-- Whether a sequence may start at a position, as far as a plain test can tell. -/
def mayStart (subject : Subject) (flags : Flags) (position : Nat) (nodes : List Node) : Bool :=
  match (leadingOf? flags nodes).bind fun (flags, node) => node.plainTest? flags with
  | some test => subject.holdsAt test position
  | none => true

mutual

/-- What takes just one character in a part, alone or inside groups without a number. -/
def Node.unit? (flags : Flags) : Node → Option Single
  | .group none on off body => unitOf? (flags.within on off) body
  | node => node.single? flags

/-- What takes just one character in a sequence of one part. -/
def unitOf? (flags : Flags) : List Node → Option Single
  | [node] => node.unit? flags
  | _ => none

end

/-! ## All parts -/

mutual

/-- Tries a part of a pattern, then the rest. -/
def Node.attempt (subject : Subject) (setting : Setting) : Node → Trial → Trial
  | .char negated wanted =>
    takeOne subject fun point => charHolds setting.flags wanted point != negated
  | .set negated members => takeOne subject (setHolds setting.flags negated members)
  | .anyChar => takeOne subject fun point => setting.flags.dotAll || point ≠ lineFeed
  | .anchor anchor => fun rest place =>
    if anchor.holds subject setting.flags place.position then rest place else place.fail
  | .group none on off body =>
    attemptAll subject { setting with flags := setting.flags.within on off } body
  | .group (some index) on off body => fun rest place =>
    let inner := { setting with flags := setting.flags.within on off, following := none }
    attemptAll subject inner body (fun reached => rest (reached.passing (2 * index - 1)))
      (place.passing (2 * index - 2))
  | .repetition greed least most body => fun rest =>
    match unitOf? setting.flags body with
    | some single => repeatChar subject setting single greed least most rest
    | none =>
      match greed with
      | .greedy =>
        let inner := { setting with inRepetition := true, following := none }
        let round := attemptAll subject inner body
        exactly round (fun place =>
          asMany round rest (roundsAt subject least most place.position) none place) least
      | .lazy =>
        let inner := { setting with inRepetition := true, following := none }
        let round := attemptAll subject inner body
        exactly round (fun place =>
          asFew setting round rest (roundsAt subject least most place.position) none place) least
      | .possessive => fun place =>
        let round := attemptAll subject { setting with following := none } body
        match fromHere (exactly (fun goOn start => settle (round arrived start) goOn) arrived least)
            place with
        | .failed foothold borders => .failed foothold borders
        | .reached reached =>
          rest (settled (round arrived) (roundsAt subject least most reached.position) none reached)
  | .alternatives branches => attemptAny subject { setting with following := none } branches
  | .lookaround _ true [] => fun _ place => place.fail
  | .lookaround behind negated body => fun rest place =>
    let back := if behind then (sequenceWidth subject.groups body).least else 0
    let start := place.position - back
    let inner := { setting with following := none }
    if place.position < back then (if negated then rest place else place.fail)
    else
      match attemptAll subject inner body arrived ⟨start, start, place.borders⟩ with
      | .reached reached =>
        if negated then reached.fail else rest { reached with position := place.position }
      | .failed foothold after =>
        if negated then
          rest ⟨place.position, foothold, setting.kept place.borders after⟩
        else .failed foothold after
  | .atomic body => fun rest place =>
    settle (fromHere (attemptAll subject { setting with following := none } body arrived)
      place.standing) rest
  | .reference group => fun rest place =>
    match place.group? group with
    | some (first, last) => takeAgain subject setting.flags rest (last - first) first place
    | none => place.fail
  | .conditional group present absent => fun rest place =>
    if (place.group? group).isSome then
      let inner := { setting with following := if absent.isEmpty then setting.following else none }
      attemptAll subject inner present rest place
    else attemptAll subject setting absent rest place

/-- Tries the parts of a sequence one after another. -/
def attemptAll (subject : Subject) (setting : Setting) : List Node → Trial → Trial
  | [] => fun rest => rest
  | node :: others => fun rest =>
    let inner := { setting with following := startOf setting.flags setting.following others }
    node.attempt subject inner (attemptAll subject setting others rest)

/-- Tries several sequences, each from the same place. -/
def attemptAny (subject : Subject) (setting : Setting) : List (List Node) → Trial → Trial
  | [] => fun _ place => place.fail
  | branch :: others => fun rest place =>
    if mayStart subject setting.flags place.position branch then
      (attemptAll subject setting branch rest place.standing).orElse fun foothold after =>
        attemptAny subject setting others rest
          { place with foothold, borders := setting.kept place.borders after }
    else attemptAny subject setting others rest place

end

end SurveyDesk.Pattern
