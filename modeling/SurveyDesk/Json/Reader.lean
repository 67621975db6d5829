import SurveyDesk.Json.Token

/-!
Reading a JSON text. The tokens are taken one by one; the state says what may come next and keeps
the lists and objects that are still open. A repeated key keeps its first place and its last value.
-/
namespace SurveyDesk.Json

/-- A list or an object that is still open and waits for a value. The parts already read are kept
last first. -/
inductive Frame where
  | items (read : List Value)
  | members (read : List (Text × Value)) (key : Text)
  deriving Repr

/-- What may come next, and what is open around it. -/
inductive State where
  | valueDue (outer : List Frame)
  | listOpened (outer : List Frame)
  | objectOpened (outer : List Frame)
  | keyDue (read : List (Text × Value)) (outer : List Frame)
  | colonDue (read : List (Text × Value)) (key : Text) (outer : List Frame)
  | behindItem (read : List Value) (outer : List Frame)
  | behindMember (read : List (Text × Value)) (outer : List Frame)
  | complete (value : Value)
  deriving Repr

/-- The state after a whole value has been read. -/
def State.delivered (value : Value) : List Frame → State
  | [] => .complete value
  | .items read :: outer => .behindItem (value :: read) outer
  | .members read key :: outer => .behindMember ((key, value) :: read) outer

/-- A token where a value is due; `limit` bounds how many lists and objects may be open. -/
def State.takeValue (limit : Nat) (outer : List Frame) (lexeme : Lexeme) : Except Fault State :=
  match lexeme.token with
  | .openList =>
    if limit ≤ outer.length then .error (.tooDeep .list) else .ok (.listOpened outer)
  | .openObject =>
    if limit ≤ outer.length then .error (.tooDeep .object) else .ok (.objectOpened outer)
  | .text content => .ok (.delivered (.str (.ofPoints content)) outer)
  | .constant value => .ok (.delivered value outer)
  | .whole negative digits =>
    if numeralLimit < digits.length then .error (.numeralTooLong digits.length)
    else
      let size : Int := Decimal.wholeOf digits
      .ok (.delivered (.int (if negative then -size else size)) outer)
  | .brokenText cause offset => .error (.malformed cause offset)
  | _ => .error (.malformed .expectedValue lexeme.offset)

/-- A token where a key is due. -/
def State.takeKey (read : List (Text × Value)) (outer : List Frame) (lexeme : Lexeme) :
    Except Fault State :=
  match lexeme.token with
  | .text content => .ok (.colonDue read (.ofPoints content) outer)
  | .brokenText cause offset => .error (.malformed cause offset)
  | _ => .error (.malformed .expectedKey lexeme.offset)

/-- The state after one more token. -/
def State.take (limit : Nat) (state : State) (lexeme : Lexeme) : Except Fault State :=
  match state with
  | .valueDue outer => takeValue limit outer lexeme
  | .listOpened outer =>
    match lexeme.token with
    | .closeList => .ok (.delivered (.list []) outer)
    | _ => takeValue limit (.items [] :: outer) lexeme
  | .objectOpened outer =>
    match lexeme.token with
    | .closeObject => .ok (.delivered (.object []) outer)
    | _ => takeKey [] outer lexeme
  | .keyDue read outer => takeKey read outer lexeme
  | .colonDue read key outer =>
    match lexeme.token with
    | .colon => .ok (.valueDue (.members read key :: outer))
    | _ => .error (.malformed .expectedColon lexeme.offset)
  | .behindItem read outer =>
    match lexeme.token with
    | .comma => .ok (.valueDue (.items read :: outer))
    | .closeList => .ok (.delivered (.list read.reverse) outer)
    | _ => .error (.malformed .expectedComma lexeme.offset)
  | .behindMember read outer =>
    match lexeme.token with
    | .comma => .ok (.keyDue read outer)
    | .closeObject => .ok (.delivered (.object (Entries.ofPairs read.reverse)) outer)
    | _ => .error (.malformed .expectedComma lexeme.offset)
  | .complete _ => .error (.malformed .extraData lexeme.offset)

/-- The value that has been read when the text ends at an offset. -/
def State.finish (length : Nat) : State → Except Fault Value
  | .valueDue _ | .listOpened _ => .error (.malformed .expectedValue length)
  | .objectOpened _ | .keyDue _ _ => .error (.malformed .expectedKey length)
  | .colonDue _ _ _ => .error (.malformed .expectedColon length)
  | .behindItem _ _ | .behindMember _ _ => .error (.malformed .expectedComma length)
  | .complete value => .ok value

/-- The value that the tokens of a text make up, lists and objects being nested at most `limit`
deep. -/
def valueWithin (limit : Nat) (text : List Point) : Except Fault Value := do
  let state ← (tokens text).foldlM (State.take limit) (.valueDue [])
  state.finish text.length

/-- The value of a text, which may not start with a byte order mark. -/
def readWithin (limit : Nat) (text : List Point) : Except Fault Value :=
  match text with
  | .char '\ufeff' :: _ => .error (.malformed .byteOrderMark 0)
  | _ => valueWithin limit text

/-- How many lists and objects a text may open inside one another. -/
def nestingLimit : Nat := 980

/-- The value of a text. -/
def read (text : List Point) : Except Fault Value := readWithin nestingLimit text

/-- How many lists and objects a value has inside one another. -/
def nesting : Value → Nat
  | .list items => itemsNesting items + 1
  | .object entries => entriesNesting entries + 1
  | _ => 0
where
  /-- The deepest nesting among items. -/
  itemsNesting : List Value → Nat
    | [] => 0
    | item :: rest => max (nesting item) (itemsNesting rest)
  /-- The deepest nesting among the values of entries. -/
  entriesNesting : List (Text × Value) → Nat
    | [] => 0
    | (_, value) :: rest => max (nesting value) (entriesNesting rest)

end SurveyDesk.Json
