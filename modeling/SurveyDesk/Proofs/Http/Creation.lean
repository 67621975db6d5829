import SurveyDesk.Proofs.Http.Orders
import SurveyDesk.Proofs.Survey.Copying
import SurveyDesk.Proofs.Survey.Refusals

/-! Which bodies create a survey. A body is refused exactly if a part of it is missing or is not the
text that it must be, or if neither a kind of questions nor a source says what to start from; the
parts that are left out or null are read as if they were not there. Every other body creates one
survey, unless it asks for a copy of a survey that the caller cannot work on, or of content that is
nested too deeply. Only the title and the remark must be whole: a torn source is looked for like any
other. -/
namespace SurveyDesk.Http

open Handling
open Survey (AddsCopy Form IsGone IsOthers Ledger Shows codeFor configRecord contentSaved?
  documentUnder? isOwnedBy metaCollection metaRecord missing notAllowed saysRemoved textAt?)

/-! ## Bodies -/

/-- Whether an object holds a text under a key that is whole and not empty. -/
def HoldsText (entries : Entries) (key : String) : Prop :=
  ∃ text : String, entries.get? key = some (.str text) ∧ text ≠ ""

/-- Whether an object holds something under a key that is neither null nor a text. -/
def HoldsOther (entries : Entries) (key : String) : Prop :=
  ∃ value, entries.get? key = some value ∧ value ≠ .null ∧ ∀ text, value ≠ .str text

/-- Whether an object holds nothing, null or an empty text under a key. -/
def LacksText (entries : Entries) (key : String) : Prop :=
  entries.get? key = none ∨ entries.get? key = some .null ∨ entries.get? key = some (.str "")

/-- Whether an object asks for a copy of a survey. -/
def AsksForCopy (entries : Entries) : Prop :=
  entries.get? "createMethod" = some (.str "copy")

/-- What can be wrong with a body that is to create a survey. -/
inductive Flawed : Value → Prop where
  | notObject (other : ∀ entries, value ≠ .object entries) : Flawed value
  | required (key : String) (listed : key ∈ ["title", "remark"]) (lacks : ¬ HoldsText entries key) :
    Flawed (.object entries)
  | optional (key : String) (listed : key ∈ ["createMethod", "questionType", "createFrom"])
    (other : HoldsOther entries key) : Flawed (.object entries)
  | noSource (copies : AsksForCopy entries) (lacks : LacksText entries "createFrom") :
    Flawed (.object entries)
  | noType (anew : ¬ AsksForCopy entries) (lacks : LacksText entries "questionType") :
    Flawed (.object entries)

/-- Whether an object says what a survey starts from. -/
def StartsFrom (entries : Entries) : Start → Prop
  | .anew questionType =>
    ¬ AsksForCopy entries ∧ entries.get? "questionType" = some (.str questionType)
  | .copyOf source => AsksForCopy entries ∧ entries.get? "createFrom" = some (.str source)

/-- What a body asks for: a title, a remark, and what the survey starts from. -/
structure Asks (entries : Entries) (input : CreateRequest) : Prop where
  title : entries.get? "title" = some (.str input.title)
  remark : entries.get? "remark" = some (.str input.remark)
  start : StartsFrom entries input.start

section
variable {entries : Entries} {key : String} {value : Value} {input : CreateRequest}

theorem requiredText_eq_ok {text : Text} : requiredText entries key = .ok text ↔
    entries.get? key = some (.str text) ∧ text.isWhole = true ∧ text ≠ "" := by
  unfold requiredText
  cases entries.get? key with
  | none => simp [fieldFault]
  | some value =>
    cases value with
    | str other =>
      simp only [Option.some.injEq, Value.str.injEq, fieldFault]
      split
      · rename_i torn
        simp only [reduceCtorEq, false_iff]
        rintro ⟨rfl, whole, -⟩
        simp [whole] at torn
      · rename_i whole
        split
        · rename_i empty
          simp only [reduceCtorEq, false_iff]
          rintro ⟨rfl, -, filled⟩
          exact filled empty
        · rename_i filled
          simp only [Except.ok.injEq]
          exact ⟨fun same => ⟨same, by simpa [← same] using whole, same ▸ filled⟩, And.left⟩
    | _ => simp [fieldFault]

theorem not_holdsText {fault : InputFault} (refused : requiredText entries key = .error fault) :
    ¬ HoldsText entries key := by
  rintro ⟨text, held, filled⟩
  cases refused.symm.trans (requiredText_eq_ok.mpr ⟨held, rfl, by simpa using filled⟩)

theorem holdsText {text : Text} (read : requiredText entries key = .ok text) :
    HoldsText entries key := by
  obtain ⟨held, whole, filled⟩ := requiredText_eq_ok.mp read
  cases text with
  | whole string => exact ⟨string, held, by simpa using filled⟩
  | torn => cases whole

theorem textAt?_object (key : String) (entries : Entries) : textAt? key (.object entries) =
    match entries.get? key with | some (.str text) => some text | _ => none := rfl

theorem optionalText_eq_ok : optionalText entries key = .ok found ↔
    ¬ HoldsOther entries key ∧ found = textAt? key (.object entries) := by
  rw [optionalText, HoldsOther, textAt?_object]
  cases entries.get? key with
  | none => simp [eq_comm]
  | some value => cases value <;> simp [fieldFault, eq_comm]

theorem holdsOther {fault : InputFault} (refused : optionalText entries key = .error fault) :
    HoldsOther entries key := by
  by_contra plain
  cases refused.symm.trans (optionalText_eq_ok.mpr ⟨plain, rfl⟩)

theorem textAt?_eq_some : textAt? key (.object entries) = some text ↔
    entries.get? key = some (.str text) := by
  rw [textAt?_object]
  cases entries.get? key with
  | none => simp
  | some value => cases value <;> simp

theorem lacksText_iff (plain : ¬ HoldsOther entries key) :
    LacksText entries key ↔ ∀ text, textAt? key (.object entries) = some text → text = "" := by
  simp only [textAt?_eq_some]
  unfold HoldsOther at plain
  unfold LacksText
  cases held : entries.get? key with
  | none => simp
  | some value =>
    cases value with
    | null => simp
    | str text => simp
    | _ => simp [held] at plain

/-- What a text that is needed says to start from. -/
theorem filled_or_lacking (wrap : Text → Start) (cause : InputCause) (text : Option Text) :
    let start : Except InputFault Start := match text with
      | none | some (.whole "") => bodyFault cause
      | some text => .ok (wrap text)
    (∃ given, text = some given ∧ given ≠ "" ∧ start = .ok (wrap given)) ∨
      (∀ given, text = some given → given = "") ∧ ∃ fault, start = .error fault := by
  cases text with
  | none => exact .inr ⟨nofun, _, rfl⟩
  | some given =>
    by_cases empty : given = ""
    · subst empty
      exact .inr ⟨fun given same => (Option.some.inj same).symm, _, rfl⟩
    · refine .inl ⟨given, rfl, empty, ?_⟩
      simp

/-- A copy needs a source. -/
theorem ofTexts_copy (questionType source : Option Text) :
    (∃ text, source = some text ∧ text ≠ "" ∧
      Start.ofTexts questionType (some (.whole "copy")) source = .ok (.copyOf text)) ∨
    (∀ text, source = some text → text = "") ∧
      ∃ fault, Start.ofTexts questionType (some (.whole "copy")) source = .error fault := by
  unfold Start.ofTexts
  rw [if_pos rfl]
  exact filled_or_lacking .copyOf .sourceMissing source

/-- Anything else needs a kind of questions. -/
theorem ofTexts_anew {method : Option Text} (anew : method ≠ some (.whole "copy"))
    (questionType source : Option Text) :
    (∃ text, questionType = some text ∧ text ≠ "" ∧
      Start.ofTexts questionType method source = .ok (.anew text)) ∨
    (∀ text, questionType = some text → text = "") ∧
      ∃ fault, Start.ofTexts questionType method source = .error fault := by
  unfold Start.ofTexts
  rw [if_neg anew]
  exact filled_or_lacking .anew .typeMissing questionType

/-- Where every part of an object is of its kind, only what to start from may be left open. -/
theorem starts_or_flawed
    (required : ∀ key ∈ ["title", "remark"], HoldsText entries key)
    (optional : ∀ key ∈ ["createMethod", "questionType", "createFrom"],
      ¬ HoldsOther entries key) :
    (∃ start, ¬ Flawed (.object entries) ∧ StartsFrom entries start ∧
      Start.ofTexts (textAt? "questionType" (.object entries))
        (textAt? "createMethod" (.object entries)) (textAt? "createFrom" (.object entries)) =
          .ok start) ∨
    Flawed (.object entries) ∧ ∃ fault,
      Start.ofTexts (textAt? "questionType" (.object entries))
        (textAt? "createMethod" (.object entries)) (textAt? "createFrom" (.object entries)) =
          .error fault := by
  have sourceLacks := lacksText_iff (optional "createFrom" (by decide))
  have typeLacks := lacksText_iff (optional "questionType" (by decide))
  -- every other way to be flawed is excluded by the two hypotheses
  have sound (copies : AsksForCopy entries → ¬ LacksText entries "createFrom")
      (anew : ¬ AsksForCopy entries → ¬ LacksText entries "questionType") :
      ¬ Flawed (.object entries) := by
    intro flawed
    cases flawed with
    | notObject other => exact other entries rfl
    | required key listed lacks => exact lacks (required key listed)
    | optional key listed other => exact optional key listed other
    | noSource asked lacks => exact copies asked lacks
    | noType asked lacks => exact anew asked lacks
  by_cases copies : AsksForCopy entries
  · rw [textAt?_eq_some.mpr copies]
    rcases ofTexts_copy (textAt? "questionType" (.object entries))
      (textAt? "createFrom" (.object entries)) with ⟨source, found, filled, read⟩ | ⟨lacks, refused⟩
    · refine .inl ⟨.copyOf source, sound (fun _ lacks => ?_) (absurd copies), ?_, read⟩
      · exact filled (sourceLacks.mp lacks source found)
      · exact ⟨copies, textAt?_eq_some.mp found⟩
    · exact .inr ⟨.noSource copies (sourceLacks.mpr lacks), refused⟩
  · have other : textAt? "createMethod" (.object entries) ≠ some (.whole "copy") :=
      fun same => copies (textAt?_eq_some.mp same)
    rcases ofTexts_anew other (textAt? "questionType" (.object entries))
      (textAt? "createFrom" (.object entries)) with ⟨type, found, filled, read⟩ | ⟨lacks, refused⟩
    · refine .inl ⟨.anew type, sound (fun asked => absurd asked copies) fun _ lacks => ?_, ?_, read⟩
      · exact filled (typeLacks.mp lacks type found)
      · exact ⟨copies, textAt?_eq_some.mp found⟩
    · exact .inr ⟨.noType copies (typeLacks.mpr lacks), refused⟩

/-- What an object asks for is read part by part. -/
theorem ofBody_object (entries : Entries) :
    CreateRequest.ofBody (.value (.object entries)) = (do
      let remark ← requiredText entries "remark"
      let title ← requiredText entries "title"
      let questionType ← optionalText entries "questionType"
      let method ← optionalText entries "createMethod"
      let source ← optionalText entries "createFrom"
      return ⟨remark, title, ← Start.ofTexts questionType method source⟩) := rfl

/-- A body asks for a survey, or it is flawed and refused. -/
theorem asks_or_flawed (value : Value) :
    (∃ entries input, value = .object entries ∧ ¬ Flawed value ∧ Asks entries input ∧
      CreateRequest.ofBody (.value value) = .ok input) ∨
    Flawed value ∧ ∃ fault, CreateRequest.ofBody (.value value) = .error fault := by
  cases value with
  | object entries =>
    rw [ofBody_object]
    cases remarkRead : requiredText entries "remark" with
    | error fault =>
      exact .inr ⟨.required "remark" (by decide) (not_holdsText remarkRead), fault, rfl⟩
    | ok remark =>
    cases titleRead : requiredText entries "title" with
    | error fault =>
      exact .inr ⟨.required "title" (by decide) (not_holdsText titleRead), fault, rfl⟩
    | ok title =>
    cases typeRead : optionalText entries "questionType" with
    | error fault =>
      exact .inr ⟨.optional "questionType" (by decide) (holdsOther typeRead), fault, rfl⟩
    | ok questionType =>
    cases methodRead : optionalText entries "createMethod" with
    | error fault =>
      exact .inr ⟨.optional "createMethod" (by decide) (holdsOther methodRead), fault, rfl⟩
    | ok method =>
    cases sourceRead : optionalText entries "createFrom" with
    | error fault =>
      exact .inr ⟨.optional "createFrom" (by decide) (holdsOther sourceRead), fault, rfl⟩
    | ok source =>
    obtain ⟨typePlain, rfl⟩ := optionalText_eq_ok.mp typeRead
    obtain ⟨methodPlain, rfl⟩ := optionalText_eq_ok.mp methodRead
    obtain ⟨sourcePlain, rfl⟩ := optionalText_eq_ok.mp sourceRead
    have required : ∀ key ∈ ["title", "remark"], HoldsText entries key := by
      simp only [List.forall_mem_cons]
      exact ⟨holdsText titleRead, holdsText remarkRead, List.forall_mem_nil _⟩
    have optional : ∀ key ∈ ["createMethod", "questionType", "createFrom"],
        ¬ HoldsOther entries key := by
      simp only [List.forall_mem_cons]
      exact ⟨methodPlain, typePlain, sourcePlain, List.forall_mem_nil _⟩
    rcases starts_or_flawed required optional with ⟨start, sound, starts, read⟩ |
      ⟨flawed, fault, refused⟩
    · refine .inl ⟨entries, ⟨remark, title, start⟩, rfl, sound,
        ⟨(requiredText_eq_ok.mp titleRead).1, (requiredText_eq_ok.mp remarkRead).1, starts⟩, ?_⟩
      simp only [ok_bind, read, pure_eq_ok]
    · refine .inr ⟨flawed, fault, ?_⟩
      simp only [ok_bind, refused, error_bind]
  | _ => exact .inr ⟨.notObject nofun, _, rfl⟩

end

/-! ## Requests -/

/-- A request to create a survey, with a body that is declared to be JSON and an access token of a
user. -/
structure SendsCreation (setup : Setup) (now : Int) (user : Text) (request : Request) : Prop where
  path : Route.ofPath? request.path = some (.operation .create)
  method : request.method = "POST"
  present : request.body ≠ []
  declared : ∃ header, request.header? "content-type" = some header ∧ declaresJson header = true
  token : ∃ claims, bearerClaims setup.secrets request now = .ok claims ∧
    claims.get? "sub" = some (.str user)

/-- Whether a response is an envelope with a code and a message. -/
def Response.Tells (response : Response) (code : Int) : Prop :=
  response.status = 200 ∧ ∃ message : String,
    response.content = .value (.object [("code", .int code), ("errmsg", .str message)])

/-- Where the kind of questions of a new survey comes from: from the object that asks for the
survey, or from the survey that is copied, which is the user's own and not removed. -/
inductive KindFrom (desk : Desk) (user : Text) (entries : Entries) (kind : Value) : Prop where
  | body (anew : ¬ AsksForCopy entries) (given : entries.get? "questionType" = some kind)
  | source (copies : AsksForCopy entries) (id : Text) (original : Document)
    (named : entries.get? "createFrom" = some (.str id))
    (stored : documentUnder? desk metaCollection id = some original)
    (own : isOwnedBy user original.named = true) (present : saysRemoved original.named = false)
    (held : original.named.get? "questionType" = some kind)

/-- A survey is created as an object asks for it: one survey is added, under a fresh id that is
answered. -/
inductive CreatesOne (desk after : Desk) (response : Response) (user : Text)
    (entries : Entries) : Prop where
  | survey (id : Text) (title remark kind : Value) (content : Entries) (caller : Caller)
    (status : response.status = 200)
    (answer : response.content = .value (envelopeOf (.object [("id", .str id)])))
    (mine : caller.id = user) (titled : entries.get? "title" = some title)
    (remarked : entries.get? "remark" = some remark) (kindly : KindFrom desk user entries kind)
    (adds : AddsCopy desk after id
      (metaRecord (.str id) title remark kind caller (desk.now))
      [configRecord (.str id) (.object content)])

/-- A copy of a survey is refused, because there is none to copy or because it is somebody
else's. -/
inductive RefusesCopy (desk after : Desk) (response : Response) (user : Text)
    (entries : Entries) : Prop where
  | gone (copies : AsksForCopy entries) (id : Text)
    (named : entries.get? "createFrom" = some (.str id)) (gone : IsGone desk id)
    (told : response.Tells 404) (unchanged : after = desk)
  | others (copies : AsksForCopy entries) (id : Text)
    (named : entries.get? "createFrom" = some (.str id)) (there : ¬ IsGone desk id)
    (others : IsOthers desk id user) (told : response.Tells 403) (unchanged : after = desk)

/-- Whether an object asks for a copy of a user's own survey with content that is nested too deeply
to be copied. -/
def CopiesTooDeep (desk : Desk) (user : Text) (entries : Entries) : Prop :=
  AsksForCopy entries ∧ ∃ id content, entries.get? "createFrom" = some (.str id) ∧
    ¬ IsGone desk id ∧ ¬ IsOthers desk id user ∧ contentSaved? desk id = some content ∧
    ¬ Copyable 5 content

/-- Whether an object asks for a copy of a survey under an id that is torn. -/
def CopiesTorn (entries : Entries) : Prop :=
  AsksForCopy entries ∧ ∃ id, entries.get? "createFrom" = some (.str id) ∧ id.isWhole = false

/-- How a request to create a survey is answered that has a value for a body. -/
structure AnsweredCreation (setup : Setup) (desk : Desk) (user : Text) (request : Request)
    (value : Value) : Prop where
  refused : ((serve setup request).run desk).1.Tells 400 ↔ Flawed value
  unchanged : Flawed value → ((serve setup request).run desk).2 = desk
  served : ∀ entries, value = .object entries → ¬ Flawed value →
    ¬ CopiesTooDeep desk user entries → ¬ CopiesTorn entries →
    CreatesOne desk ((serve setup request).run desk).2 ((serve setup request).run desk).1 user
        entries ∨
      RefusesCopy desk ((serve setup request).run desk).2 ((serve setup request).run desk).1 user
        entries

variable {setup : Setup} {desk after : Desk} {ledger : Ledger} {request : Request} {user : Text}
  {value : Value} {entries claims : Entries} {input : CreateRequest} {caller : Caller}

theorem tells_envelope (code : RefusalCode) (message : String) (headers : List Field) :
    Response.Tells { Failure.envelope code message with headers } code.number :=
  ⟨rfl, message, rfl⟩

theorem Response.Tells.unique {response : Response} {code other : Int} (told : response.Tells code)
    (again : response.Tells other) : code = other := by
  obtain ⟨-, message, content⟩ := told
  obtain ⟨-, text, same⟩ := again
  rw [content] at same
  cases same
  rfl

theorem Response.Tells.eq_number {code : RefusalCode} {message : Text} {headers : List Field}
    {other : Int} (told : Response.Tells { Failure.envelope code message with headers } other) :
    other = code.number := by
  cases message with
  | whole message => exact told.unique (tells_envelope code message headers)
  | torn => exact absurd told.1 (show (500 : Nat) ≠ 200 by decide)

theorem not_tells_envelopeOf {response : Response} {data : Value} (code : Int)
    (content : response.content = .value (envelopeOf data)) : ¬ response.Tells code := by
  rintro ⟨-, message, same⟩
  rw [content] at same
  simp [envelopeOf] at same

theorem CreatesOne.not_tells {response : Response}
    (creates : CreatesOne desk after response user entries) (code : Int) :
    ¬ response.Tells code := by
  cases creates with
  | survey id title remark kind content caller status answer =>
    exact not_tells_envelopeOf code answer

theorem RefusesCopy.not_tells {response : Response}
    (refuses : RefusesCopy desk after response user entries) : ¬ response.Tells 400 := by
  intro told
  cases refuses with
  | gone copies id named gone other => exact absurd (told.unique other) (by decide)
  | others copies id named there others other => exact absurd (told.unique other) (by decide)

/-- Claims that name a user as their subject are those of a caller. -/
theorem caller_of_subject (subject : claims.get? "sub" = some (.str user)) (named : user ≠ "") :
    ∃ caller : Caller, Caller.ofClaims (.object claims) = .ok caller ∧ caller.id = user := by
  have truthy : (Value.str user).isTruthy = true := by simpa [Value.isTruthy] using named
  let name := (claims.get? "username").getD .null
  refine ⟨⟨user, (if name.isTruthy then name else .str user).asText⟩, ?_, rfl⟩
  simp [Caller.ofClaims, subject, truthy, Value.asText, name]

theorem admitted_of_read (sends : SendsCreation setup now user request)
    (brought : bearerClaims setup.secrets request now = .ok claims)
    (read : Json.readOctets request.body = .ok value) :
    Operation.create.admitted setup.secrets request now = .ok (.value value, claims) := by
  obtain ⟨header, declared, json⟩ := sends.declared
  have present : request.body.isEmpty = false := by simpa using sends.present
  have found : requestBodyOf request = .ok (.value value) := by
    simp only [requestBodyOf, present, declared, Option.any_some, json, read, Bool.not_true,
      Bool.false_eq_true, if_false]
  have reads : Operation.create.readsBody = true := rfl
  rw [Operation.admitted, if_pos reads, found, ok_bind, brought]
  rfl

/-- Whoever sends a body that cannot be read is told so, and nothing else is looked at. -/
theorem run_unreadable {fault : Json.OctetFault}
    (sends : SendsCreation setup desk.clock user request)
    (read : Json.readOctets request.body = .error fault) :
    ∃ headers,
      (serve setup request).run desk = ({ unreadableAnswer fault with headers }, desk) := by
  obtain ⟨failure, unread, told⟩ :=
    requestBodyOf_unreadable ⟨sends.present, sends.declared, read⟩
  have reads : Operation.create.readsBody = true := rfl
  have refused : Operation.create.admitted setup.secrets request desk.clock = .error failure := by
    rw [Operation.admitted, if_pos reads, unread, error_bind]
  have answered := answer_operation .create setup.secrets request desk
  rw [refused] at answered
  obtain ⟨headers, run⟩ := serve_operation sends.path sends.method answered
  rw [responseOf, told] at run
  exact ⟨headers, run⟩

/-! ## Answers -/

section
variable (sends : SendsCreation setup desk.clock user request)
  (admitted : Operation.create.admitted setup.secrets request desk.clock =
    .ok (.value value, claims))

include sends admitted

/-- A flawed body is refused before anything else is looked at. -/
theorem run_flawed {fault : InputFault}
    (refused : CreateRequest.ofBody (.value value) = .error fault) :
    ((serve setup request).run desk).1.Tells 400 ∧ ((serve setup request).run desk).2 = desk := by
  have handled : (Operation.create.answer claims (.value value) request).outcome desk =
      (.error (.invalid fault), desk) := by
    rw [Operation.answer, answerCreate, refused]
    exact outcome_bind_error rfl
  obtain ⟨headers, run⟩ := serve_admitted sends.path sends.method admitted handled
  rw [run]
  exact ⟨tells_envelope .badParameters fault.message headers, rfl⟩

/-- Where a survey is added, one survey is created. -/
theorem createsOne_of_added (shows : Shows desk ledger) (sound : ledger.Sound)
    (mine : caller.id = user) (asks : Asks entries input) {kind : Value} {content : Entries}
    (kindly : KindFrom desk user entries kind)
    (handled : (Operation.create.answer claims (.value value) request).outcome desk =
      (.ok (.object [("id", .str ledger.nextId)]), after))
    (shown : Shows after (ledger.added (.str input.title) (.str input.remark) kind caller
      (some (.object content)))) :
    CreatesOne desk ((serve setup request).run desk).2 ((serve setup request).run desk).1 user
      entries := by
  obtain ⟨headers, run⟩ := serve_admitted sends.path sends.method admitted handled
  have answered := success_eq (.object [("id", .str ledger.nextId)])
  have showable : isShowable (Http.shown (.object [("id", .str ledger.nextId)])) = true := rfl
  rw [if_pos showable] at answered
  rw [run, Except.map, responseOf, answered]
  exact .survey ledger.nextId _ _ kind content caller rfl rfl mine asks.title asks.remark kindly
    (Survey.addsCopy_added shows sound shown)

/-- A survey that starts from nothing is created with the default content. -/
theorem createsOne_anew {questionType : Text} (shows : Shows desk ledger) (sound : ledger.Sound)
    (named : Caller.ofClaims (.object claims) = .ok caller) (mine : caller.id = user)
    (asks : Asks entries input) (starts : input.start = .anew questionType)
    (parsed : CreateRequest.ofBody (.value value) = .ok input) :
    CreatesOne desk ((serve setup request).run desk).2 ((serve setup request).run desk).1 user
      entries := by
  have asked : CreateRequest.ofBody (.value value) =
      .ok ⟨input.remark, input.title, .anew questionType⟩ := by rw [parsed, ← starts]
  obtain ⟨after, added, shown⟩ := outcome_anew shows sound asked named
  have given := asks.start
  rw [starts] at given
  -- content that is left out is the default content, which is an object as it stands
  exact createsOne_of_added sends admitted shows sound mine asks (.body given.1 given.2) added
    shown

/-- A copy of a survey of one's own is created, unless its content is nested too deeply. -/
theorem createsOne_copy {form : Form} (shows : Shows desk ledger) (sound : ledger.Sound)
    (kempt : Kempt ledger) (named : Caller.ofClaims (.object claims) = .ok caller)
    (mine : caller.id = user) (asks : Asks entries input)
    (starts : input.start = .copyOf form.id)
    (parsed : CreateRequest.ofBody (.value value) = .ok input)
    (owned : ledger.own (.str form.id) caller = .ok form)
    (fits : Copyable 5 (codeFor (.str input.title) form.questionType (form.code.getD .null))) :
    CreatesOne desk ((serve setup request).run desk).2 ((serve setup request).run desk).1 user
      entries := by
  obtain ⟨member, present, owns⟩ := Ledger.of_own owned
  have held : ledger.form? form.id = some form := Keyed.find?_of_mem sound.distinct member
  obtain ⟨content, code⟩ := Ledger.isObject_copied (kempt.filled form member) (.str input.title)
  have kindly : KindFrom desk user entries form.questionType := by
    have given := asks.start
    rw [starts] at given
    refine .source given.1 form.id form.metaDocument given.2 ?_ ?_ ?_ rfl
    · rw [Survey.metaUnder?_eq shows, held]
      rfl
    · rw [Form.named_metaDocument, Survey.isOwnedBy_meta, decide_eq_true_eq, owns, mine]
    · rw [Form.named_metaDocument, Survey.saysRemoved_meta, present]
  have asked : CreateRequest.ofBody (.value value) =
      .ok ⟨input.remark, input.title, .copyOf form.id⟩ := by rw [parsed, ← starts]
  obtain ⟨after, copied, shown⟩ := outcome_copied shows sound asked named owned fits
  rw [code] at shown
  exact createsOne_of_added sends admitted shows sound mine asks kindly copied shown

/-- A copy of a survey that the ledger does not give the caller is refused at once. -/
theorem run_refused {code : RefusalCode} {message source : Text} (shows : Shows desk ledger)
    (named : Caller.ofClaims (.object claims) = .ok caller)
    (starts : input.start = .copyOf source)
    (parsed : CreateRequest.ofBody (.value value) = .ok input)
    (owned : ledger.own (.str source) caller = .error (.refused code message)) :
    ∃ headers, (serve setup request).run desk =
      ({ Failure.envelope code message with headers }, desk) := by
  have failed : (Survey.create (.str input.title) (.str input.remark) .null
      (.str Survey.copyMethod) (.str source) caller).outcome desk =
        (.error (.refused code message), desk) := by
    rw [Survey.create, if_pos (by decide)]
    exact Survey.outcome_not_own shows owned _
  have stopped := outcome_ofWork (Survey.create (.str input.title) (.str input.remark) .null
    (.str Survey.copyMethod) (.str source) caller) desk
  rw [failed] at stopped
  have handled : (Operation.create.answer claims (.value value) request).outcome desk =
      (.error (.refused code message), desk) := by
    rw [Operation.answer, answerCreate, outcome_input parsed, outcome_caller named, starts]
    exact outcome_bind_error stopped
  exact serve_admitted sends.path sends.method admitted handled

/-- A copy of a survey that is gone is refused as not found, unless its name is torn; then it is not
said that the body is wrong. -/
private theorem refuses_gone {source : Text} (shows : Shows desk ledger)
    (named : Caller.ofClaims (.object claims) = .ok caller)
    (starts : input.start = .copyOf source)
    (parsed : CreateRequest.ofBody (.value value) = .ok input)
    (given : StartsFrom entries (.copyOf source)) (gone : IsGone desk source)
    (sought : ledger.seek (.str source) = .error (missing (.str source))) :
    RefusesCopy desk ((serve setup request).run desk).2 ((serve setup request).run desk).1 user
        entries ∨
      CopiesTorn entries ∧ ¬ ((serve setup request).run desk).1.Tells 400 := by
  obtain ⟨copies, source?⟩ := given
  have owned : ledger.own (.str source) caller = .error (missing (.str source)) := by
    rw [Ledger.own, sought]
  obtain ⟨headers, run⟩ := run_refused sends admitted shows named starts parsed owned
  rw [run]
  cases source with
  | whole id =>
    have message : ("survey " ++ (Value.str id).asText ++ " does not exist" : Text) =
        .whole ("survey " ++ id ++ " does not exist") := by
      simp only [Value.asText, Text.whole_append]
    rw [message]
    exact .inl (.gone copies id source? gone (tells_envelope .notFound _ headers) rfl)
  | torn front place rest =>
    refine .inr ⟨⟨copies, _, source?, rfl⟩, fun told => ?_⟩
    exact absurd told.eq_number (by decide)

/-- A copy of content that is nested too deeply is not said to be the body's fault. -/
private theorem tooDeep_of_copy {form : Form} (shows : Shows desk ledger) (sound : ledger.Sound)
    (kempt : Kempt ledger) (named : Caller.ofClaims (.object claims) = .ok caller)
    (mine : caller.id = user) (starts : input.start = .copyOf form.id)
    (parsed : CreateRequest.ofBody (.value value) = .ok input)
    (given : StartsFrom entries (.copyOf form.id))
    (there : ¬ IsGone desk form.id)
    (others : ∀ user, IsOthers desk form.id user ↔ form.owner.id ≠ user)
    (owned : ledger.own (.str form.id) caller = .ok form)
    (deep : ¬ Copyable 5 (codeFor (.str input.title) form.questionType (form.code.getD .null))) :
    CopiesTooDeep desk user entries ∧ ¬ ((serve setup request).run desk).1.Tells 400 := by
  obtain ⟨copies, source?⟩ := given
  obtain ⟨member, -, own⟩ := Ledger.of_own owned
  obtain ⟨content, held, tooDeep⟩ := deep_of_copied (kempt.filled form member) deep
  have saved := Survey.contentSaved?_eq shows sound (Keyed.find?_of_mem sound.distinct member)
  have asked : CreateRequest.ofBody (.value value) =
      .ok ⟨input.remark, input.title, .copyOf form.id⟩ := by rw [parsed, ← starts]
  obtain ⟨after, failed, -⟩ := outcome_halfCopied shows sound asked named owned deep
  obtain ⟨headers, run⟩ := serve_admitted sends.path sends.method admitted failed
  refine ⟨⟨copies, form.id, content, source?, there, ?_, saved.trans held, tooDeep⟩, ?_⟩
  · exact fun other => (others user).mp other (own.trans mine)
  · rw [run]
    exact fun told => absurd told.1 (show (500 : Nat) ≠ 200 by decide)

/-- What asks for a copy creates one, or is refused it, or content is nested too deeply for it or
the source is torn; then the answer does not say that the body is wrong. -/
theorem creates_or_refuses_copy {source : Text} (shows : Shows desk ledger)
    (sound : ledger.Sound) (kempt : Kempt ledger)
    (named : Caller.ofClaims (.object claims) = .ok caller) (mine : caller.id = user)
    (asks : Asks entries input) (starts : input.start = .copyOf source)
    (parsed : CreateRequest.ofBody (.value value) = .ok input) :
    (CreatesOne desk ((serve setup request).run desk).2 ((serve setup request).run desk).1 user
        entries ∨
      RefusesCopy desk ((serve setup request).run desk).2 ((serve setup request).run desk).1 user
        entries) ∨
      (CopiesTooDeep desk user entries ∨ CopiesTorn entries) ∧
        ¬ ((serve setup request).run desk).1.Tells 400 := by
  have given := asks.start
  rw [starts] at given
  rcases Survey.gone_or_found shows sound source with ⟨gone, sought⟩ |
    ⟨form, there, rfl, sought, others⟩
  · rcases refuses_gone sends admitted shows named starts parsed given gone sought with
      refused | ⟨torn, untold⟩
    · exact .inl (.inr refused)
    · exact .inr ⟨.inr torn, untold⟩
  · by_cases own : form.owner.id = caller.id
    · have owned : ledger.own (.str form.id) caller = .ok form := by
        rw [Ledger.own, sought]
        exact if_pos own
      by_cases fits : Copyable 5 (codeFor (.str input.title) form.questionType
        (form.code.getD .null))
      · exact .inl (.inl (createsOne_copy sends admitted shows sound kempt named mine asks starts
          parsed owned fits))
      · obtain ⟨deep, untold⟩ := tooDeep_of_copy sends admitted shows sound kempt named mine starts
          parsed given there others owned fits
        exact .inr ⟨.inl deep, untold⟩
    · have owned : ledger.own (.str form.id) caller = .error notAllowed := by
        rw [Ledger.own, sought]
        exact if_neg own
      obtain ⟨headers, run⟩ := run_refused sends admitted shows named starts parsed owned
      rw [run]
      exact .inl (.inr (.others given.1 form.id given.2 there ((others user).mpr (mine ▸ own))
        (tells_envelope .noPermission _ headers) rfl))

/-- What asks for a survey creates one, unless it asks for a copy that is refused, is nested too
deeply or is of a torn source. -/
theorem creates_or_refuses (shows : Shows desk ledger) (sound : ledger.Sound)
    (kempt : Kempt ledger) (named : Caller.ofClaims (.object claims) = .ok caller)
    (mine : caller.id = user) (asks : Asks entries input)
    (parsed : CreateRequest.ofBody (.value value) = .ok input) :
    (CreatesOne desk ((serve setup request).run desk).2 ((serve setup request).run desk).1 user
        entries ∨
      RefusesCopy desk ((serve setup request).run desk).2 ((serve setup request).run desk).1 user
        entries) ∨
      (CopiesTooDeep desk user entries ∨ CopiesTorn entries) ∧
        ¬ ((serve setup request).run desk).1.Tells 400 := by
  cases starts : input.start with
  | anew questionType =>
    exact .inl (.inl (createsOne_anew sends admitted shows sound named mine asks starts parsed))
  | copyOf source =>
    exact creates_or_refuses_copy sends admitted shows sound kempt named mine asks starts parsed

end

/-! ## Every body -/

/-- A body that can be read is answered as it should be. -/
theorem answeredCreation (frequented : Frequented setup desk)
    (sends : SendsCreation setup desk.clock user request) (named : user ≠ "")
    (read : Json.readOctets request.body = .ok value) :
    AnsweredCreation setup desk user request value := by
  obtain ⟨ledger, shows, sound, kempt⟩ := frequented.shows
  obtain ⟨claims, brought, subject⟩ := sends.token
  obtain ⟨caller, called, mine⟩ := caller_of_subject subject named
  have admitted := admitted_of_read sends brought read
  rcases asks_or_flawed value with ⟨entries, input, rfl, right, asks, parsed⟩ |
    ⟨flawed, fault, refused⟩
  · have served := creates_or_refuses sends admitted shows sound kempt called mine asks parsed
    refine ⟨iff_of_false ?_ right, fun flawed => absurd flawed right, ?_⟩
    · rcases served with (created | refused) | ⟨-, other⟩
      · exact created.not_tells 400
      · exact refused.not_tells
      · exact other
    · rintro _ ⟨⟩ - fits whole
      exact served.resolve_right fun amiss => amiss.1.elim fits whole
  · obtain ⟨told, unchanged⟩ := run_flawed sends admitted refused
    exact ⟨iff_of_true told flawed, fun _ => unchanged, fun _ _ right => absurd flawed right⟩

/-- A body is refused exactly if it is flawed, and any other creates one survey, from nothing or as
a copy, unless the survey to copy is gone or is somebody else's, its content is nested too deeply,
or it is named by a torn id. A body that cannot be read is not looked at. -/
theorem creations_are_answered (frequented : Frequented setup desk)
    (sends : SendsCreation setup desk.clock user request) (named : user ≠ "") :
    (∀ value, Json.readOctets request.body = .ok value →
      AnsweredCreation setup desk user request value) ∧
    ∀ fault, Json.readOctets request.body = .error fault → ∃ headers,
      (serve setup request).run desk = ({ unreadableAnswer fault with headers }, desk) :=
  ⟨fun _ read => answeredCreation frequented sends named read,
    fun _ read => run_unreadable sends read⟩

/-- A request of Ida's to create a survey. -/
def idasCreation (body : String) : Request := idas Operation.create.path body

theorem body_idasCreation (body : String) :
    (idasCreation body).body = Utf8.encode body.toList := rfl

theorem sends_idasCreation {body : String} (sent : (Utf8.encode body.toList).isEmpty = false) :
    SendsCreation unshared 1000 "ida" (idasCreation body) where
  path := rfl
  method := rfl
  present := List.isEmpty_eq_false_iff.mp sent
  declared := declares_bearing (Session.visible_signedToken _ _)
  token := ⟨idasClaims, bearerClaims_bearing (Session.visible_signedToken _ _)
    (Session.signedToken_ne_nil _ _) verified_idasClaims, rfl⟩

/-- What Ida sends to have her survey copied. -/
private def copying : Entries := [("title", .str "c"), ("remark", .str "r"),
  ("createMethod", .str "copy"), ("createFrom", .str "id1")]

private def copyingText : String :=
  "\x7b\"title\":\"c\",\"remark\":\"r\",\"createMethod\":\"copy\",\"createFrom\":\"id1\"\x7d"

/-- Ida has her survey copied. -/
theorem creations_are_answered_copying :
    Frequented unshared idasFirstDesk ∧
    SendsCreation unshared idasFirstDesk.clock "ida" (idasCreation copyingText) ∧
    ("ida" : Text) ≠ "" ∧
    Json.readOctets (idasCreation copyingText).body = .ok (.object copying) ∧
    AnsweredCreation unshared idasFirstDesk "ida" (idasCreation copyingText) (.object copying) := by
  have frequented : Frequented unshared idasFirstDesk := visited_idasFirstDesk.frequented
  have sends : SendsCreation unshared idasFirstDesk.clock "ida" (idasCreation copyingText) := by
    rw [shows_idasFirstDesk.clock]
    exact sends_idasCreation rfl
  have named : ("ida" : Text) ≠ "" := by decide
  have read : Json.readOctets (idasCreation copyingText).body = .ok (.object copying) := rfl
  exact ⟨frequented, sends, named, read,
    (creations_are_answered frequented sends named).1 _ read⟩

/-! ## Bodies that are given up -/

/-- More lists inside one another than may be are given up. -/
theorem readOctets_nested {depth : Nat} (deep : Json.nestingLimit ≤ depth) :
    ∃ opened, Json.readOctets (Utf8.encode (nestedText depth).toList) =
      .error (.notJson (.tooDeep opened) ((nestedText depth).toList.map .char)) := by
  obtain ⟨less, rfl⟩ : ∃ less, depth = less + 1 :=
    ⟨depth - 1, by unfold Json.nestingLimit at deep; omega⟩
  have front : ∃ rest, Utf8.encode (nestedText (less + 1)).toList = 0x5B :: 0x5B :: rest := by
    rw [nestedText, String.toList_ofList]
    exact ⟨_, rfl⟩
  obtain ⟨rest, octets⟩ := front
  have text := Json.textOfOctets_ascii octets (by decide) (by decide) (by decide)
  have read := Json.valueWithin_write Json.Spacing.sound_spaced Json.nestingLimit
    (nestedList (less + 1))
  rw [write_nestedList] at read
  rcases Json.reread_exact Json.nestingLimit _ (exact_nestedList (less + 1)) 0 (Nat.zero_le _) with
    ⟨fits, -⟩ | ⟨-, opened, stopped⟩
  · rw [nesting_nestedList] at fits
    omega
  · refine ⟨opened, ?_⟩
    rw [Json.readOctets, text]
    simp only [read, stopped]

theorem flawed_nestedList (depth : Nat) : Flawed (nestedList depth) := by
  refine .notObject fun entries => ?_
  cases depth with
  | zero => exact nofun
  | succ depth => exact nofun

theorem encode_nestedText (depth : Nat) :
    (Utf8.encode (nestedText depth).toList).isEmpty = false := by
  rw [nestedText, String.toList_ofList]
  rfl

/-- Five thousand lists inside one another are no object, but Ida is not told so in an envelope. -/
theorem deep_body_is_given_up :
    let request := idasCreation (nestedText 4999)
    Frequented unshared (Desk.opened 1000) ∧
    SendsCreation unshared (Desk.opened 1000).clock "ida" request ∧
    request.body = Utf8.encode (Json.write .spaced (nestedList 4999)) ∧
    Flawed (nestedList 4999) ∧
    ¬ ((serve unshared request).run (Desk.opened 1000)).1.Tells 400 := by
  intro request
  have sends : SendsCreation unshared (Desk.opened 1000).clock "ida" request :=
    sends_idasCreation (encode_nestedText 4999)
  have deep : Json.nestingLimit ≤ 4999 := by decide
  obtain ⟨opened, given⟩ := readOctets_nested deep
  rw [← body_idasCreation] at given
  obtain ⟨headers, run⟩ := run_unreadable sends given
  refine ⟨.opened 1000, sends, ?_, flawed_nestedList 4999, ?_⟩
  · rw [body_idasCreation, write_nestedList]
  · rw [run]
    rintro ⟨status, -⟩
    exact absurd (show (400 : Nat) = 200 from status) (by decide)

end SurveyDesk.Http
