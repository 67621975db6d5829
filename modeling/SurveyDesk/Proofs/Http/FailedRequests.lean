import SurveyDesk.Proofs.Http.Admission
import SurveyDesk.Proofs.Http.Bearer
import SurveyDesk.Proofs.Http.Visits
import SurveyDesk.Proofs.Survey.Publishing

/-! What a request leaves behind that fails. What can be wrong with a request is found out before
the first document is written, with three exceptions. What is published is shown once it has been
written, and a survey or its content may hold what cannot be shown, a number that is not finite or a
text that is torn; such a survey is published although its owner is told that the service broke
down. Content that is copied may be nested too deeply for that, which is found out when the new
survey is there. And content that is saved for such a survey takes the place of nothing, so that it
is only found too deep to be recorded once the survey has been moved. -/
namespace SurveyDesk.Http

open Survey (Form Ledger Op SameDocuments Shows codeFor contentSaved? documentUnder? isOwnedBy
  saysRemoved metaCollection configCollection historyCollection)

/-- Whether a response reports a failure, by its status or by the code of its envelope. -/
def Response.Fails (response : Response) : Prop :=
  response.status ≠ 200 ∨ ∃ value code, response.content = .value value ∧
    value.get? "code" = some code ∧ code ≠ .int 200

/-- Whether a request asks to publish a survey on behalf of a caller, and is admitted. -/
def AsksToPublish (setup : Setup) (now : Int) (request : Request) (id : Text) (caller : Caller) :
    Prop :=
  Route.ofPath? request.path = some (.operation .publish) ∧ request.method = "POST" ∧
    ∃ body claims, Operation.publish.admitted setup.secrets request now = .ok (body, claims) ∧
      surveyOfBody body = .ok id ∧ Caller.ofClaims (.object claims) = .ok caller

/-- Whether a request asks to save an object as the content of a survey on behalf of a caller, and
is admitted. -/
structure AsksToSave (setup : Setup) (now : Int) (request : Request) (id : Text)
    (caller : Caller) (code : Entries) : Prop where
  path : Route.ofPath? request.path = some (.operation .saveConfig)
  method : request.method = "POST"
  admitted : ∃ body claims, Operation.saveConfig.admitted setup.secrets request now =
      .ok (body, claims) ∧
    SaveRequest.ofBody body = .ok ⟨id, .object code⟩ ∧ Caller.ofClaims (.object claims) = .ok caller

/-- Whether a request asks for a copy of a survey on behalf of a caller, and is admitted. -/
structure AsksToCopy (setup : Setup) (now : Int) (request : Request) (title remark id : Text)
    (caller : Caller) : Prop where
  path : Route.ofPath? request.path = some (.operation .create)
  method : request.method = "POST"
  admitted : ∃ body claims, Operation.create.admitted setup.secrets request now =
      .ok (body, claims) ∧
    CreateRequest.ofBody body = .ok ⟨remark, title, .copyOf id⟩ ∧
    Caller.ofClaims (.object claims) = .ok caller

/-- Whether a survey that is not removed is a caller's own. -/
def HoldsOwn (desk : Desk) (id : Text) (caller : Caller) : Prop :=
  ∃ found, documentUnder? desk metaCollection id = some found ∧
    isOwnedBy caller.id found.named = true ∧ saysRemoved found.named = false

/-- The operations that publishing a survey with its content and recording it come to. -/
def publishing (id : Text) (caller : Caller) (code : Value) : List Op :=
  [.publish (.str id) caller,
    .addHistory (.str id) code (.str Survey.HistoryType.publish.name) caller]

/-- How a request fails halfway, and the operations that are done nevertheless: a survey is
published that cannot be shown with its content, content that is nested too deeply is to be copied,
or is saved where there is none. -/
inductive FailsHalfway (setup : Setup) (desk : Desk) (request : Request) : List Op → Prop where
  | publication (id : Text) (caller : Caller) (found : Document) (code : Value)
    (asks : AsksToPublish setup desk.clock request id caller)
    (own : HoldsOwn desk id caller) (there : documentUnder? desk metaCollection id = some found)
    (held : contentSaved? desk id = some code)
    (unshowable : isShowable (shown (.list [found.named, code])) = false) :
    FailsHalfway setup desk request (publishing id caller code)
  | copy (title remark id : Text) (caller : Caller) (code : Value)
    (asks : AsksToCopy setup desk.clock request title remark id caller)
    (own : HoldsOwn desk id caller) (held : contentSaved? desk id = some code)
    (deep : ¬ Copyable 5 code) :
    FailsHalfway setup desk request
      [.create (.str title) (.str remark) .null (.str Survey.copyMethod) (.str id) caller]
  | content (id : Text) (caller : Caller) (code : Entries)
    (asks : AsksToSave setup desk.clock request id caller code) (own : HoldsOwn desk id caller)
    (bare : contentSaved? desk id = none) (deep : ¬ Copyable 4 (.object code)) :
    FailsHalfway setup desk request [.saveConfig (.str id) (.object code) caller]

variable {setup : Setup} {desk after : Desk} {ledger : Ledger} {request : Request} {id : Text}
  {caller : Caller} {code : Value}

/-! ## What can be shown -/

/-- The envelope of a success, before it is shown. -/
def envelopeOf (data : Value) : Value := .object [("code", .int 200), ("data", data)]

theorem showable_list (items : List Value) :
    isShowable (shown (.list items)) = items.all fun item => isShowable (shown item) := by
  induction items with
  | nil => rfl
  | cons item rest ih =>
    simp only [shown, shown.shownItems, isShowable, isShowable.itemsShowable] at ih ⊢
    rw [ih, List.all_cons]

/-- The meta document of a survey can be shown if its texts and the name and id of its owner can. -/
theorem showable_metaEntries (form : Form) :
    isShowable (shown (.object form.metaEntries)) =
      (form.id.isWhole && isShowable (shown form.title) && isShowable (shown form.remark) &&
        isShowable (shown form.questionType) && form.owner.name.isWhole &&
        form.owner.id.isWhole) := by
  have state (milestone : Survey.Milestone) : isShowable (shown milestone.toValue) = true := by
    obtain ⟨status, date⟩ := milestone
    cases status <;> rfl
  have states : isShowable (shown (.list
      ((form.past ++ [form.current]).map Survey.Milestone.toValue))) = true := by
    rw [showable_list, List.all_map]
    exact List.all_eq_true.mpr fun milestone _ => state milestone
  have plain : ∀ key ∈ form.metaEntries.map Prod.fst, isInternal key = false := by
    simp only [Form.metaEntries, List.map_cons, List.map_nil, List.forall_mem_cons,
      List.not_mem_nil, false_implies, implies_true, and_true]
    decide
  simp only [Form.metaEntries, List.map_cons, List.map_nil, List.forall_mem_cons] at plain
  simp only [Form.metaEntries, shown, shown.shownEntries, plain, Bool.false_eq_true, if_false,
    isShowable, isShowable.entriesShowable, Text.isWhole_whole, state, Bool.true_and,
    Bool.and_true] at states ⊢
  rw [states]
  simp only [Bool.and_true, Bool.and_assoc]

theorem shown_envelope (data : Value) : shown (envelopeOf data) = envelopeOf (shown data) := by
  have plain : isInternal "code" = false ∧ isInternal "data" = false := by decide
  simp only [envelopeOf, shown, shown.shownEntries, plain, Bool.false_eq_true, if_false]

theorem showable_envelope (data : Value) : isShowable (envelopeOf data) = isShowable data := by
  simp only [envelopeOf, isShowable, isShowable.entriesShowable, Text.isWhole_whole, Bool.true_and,
    Bool.and_true]

/-- A success is shown if its data can be. -/
theorem success_eq (data : Value) : success data =
    if isShowable (shown data) then ⟨200, .value (envelopeOf (shown data)), []⟩ else .broken := by
  have enveloped : success data = .showing (envelopeOf data) [] := rfl
  rw [enveloped, Response.showing]
  simp only [shown_envelope, showable_envelope]

theorem fails_broken (headers : List Field) :
    Response.Fails { Response.broken with headers } :=
  .inl (show (500 : Nat) ≠ 200 by decide)

theorem fails_envelope (code : RefusalCode) (message : Text) (headers : List Field) :
    Response.Fails { Failure.envelope code message with headers } := by
  cases message with
  | whole =>
    have other : (code.number : Int) ≠ 200 := by cases code <;> decide
    exact .inr ⟨_, _, rfl, rfl, fun same => other (Value.int.inj same)⟩
  | torn => exact fails_broken headers

theorem fails_failure (failure : Failure) (headers : List Field) :
    Response.Fails { failure.response with headers } := by
  cases failure with
  | unreadableBody => exact .inl (show (400 : Nat) ≠ 200 by decide)
  | denied => exact .inl (show (401 : Nat) ≠ 200 by decide)
  | broken => exact fails_broken headers
  | invalid fault => exact fails_envelope .badParameters fault.message headers
  | refused code message => exact fails_envelope code message headers

/-- A success that can be shown is no failure. -/
theorem not_fails_success {data : Value} (showable : isShowable (shown data) = true)
    (headers : List Field) : ¬ Response.Fails { success data with headers } := by
  rw [success_eq, if_pos showable]
  rintro (status | ⟨value, code, content, held, other⟩)
  · exact status rfl
  · cases content
    cases held
    exact other rfl

/-- What is shown of a publication can be shown if the survey and its content can. -/
theorem showable_publication {form : Form} {record : Text} (given : form.id.isWhole = true)
    (recorded : record.isWhole = true) (code : Value) (date : Int) :
    isShowable (shown (form.publicationData code date record)) =
      isShowable (shown (.list [form.metaDocument.named, code])) := by
  have listed := showable_metaEntries (form.moved .published date)
  have before := showable_metaEntries form
  have moved : (form.moved .published date).id.isWhole = true := given
  have plain : isInternal "surveyMetaRes" = false ∧ isInternal "surveyConfRes" = false ∧
      isInternal "historyRes" = false ∧ isInternal "pageId" = false ∧ isInternal "code" = false ∧
      isInternal "_id" = false := by decide
  rw [showable_list, Form.named_metaDocument, List.all_cons, before]
  simp only [Form.publicationData, shown, shown.shownEntries, plain, Bool.false_eq_true, if_false,
    isShowable, isShowable.entriesShowable, Text.isWhole_whole, given, moved, recorded,
    Bool.true_and, Bool.and_true, List.all_cons, List.all_nil] at listed ⊢
  rw [listed]
  rfl

/-! ## What is stored -/

/-- Where something is recorded in the history the documents are others. -/
theorem not_sameDocuments_of_recorded {left : Ledger} {type : Survey.HistoryType}
    (before : Shows desk ledger) (later : Shows after (left.recorded id type code caller))
    (kept : left.snapshots = ledger.snapshots) : ¬ SameDocuments desk after := by
  intro same
  have records := same historyCollection (by decide)
  rw [before.snapshots, later.snapshots, Ledger.recorded, kept] at records
  have lengths := congrArg List.length records
  simp [Keyed.byName] at lengths

/-- Where a survey is added the documents are others. -/
theorem not_sameDocuments_of_added {title remark questionType : Value} {stored : Option Value}
    (before : Shows desk ledger)
    (later : Shows after (ledger.added title remark questionType caller stored)) :
    ¬ SameDocuments desk after := by
  intro same
  have metas := same metaCollection (by decide)
  rw [before.metas, later.metas, Ledger.added] at metas
  have lengths := congrArg List.length metas
  simp [Keyed.byName] at lengths

/-- Where a survey is moved into a state the documents are others. -/
theorem not_sameDocuments_of_moved {left : Ledger} {form edited : Form} {status : Survey.Status}
    {date : Int} (before : Shows desk ledger) (later : Shows after left)
    (held : ledger.form? form.id = some form)
    (moved : left.form? form.id = some (edited.moved status date))
    (kept : edited.states = form.states) : ¬ SameDocuments desk after := by
  intro same
  have stored : documentUnder? after metaCollection form.id =
      documentUnder? desk metaCollection form.id :=
    congrArg (Keyed.get? (.str form.id)) (same metaCollection (by decide))
  rw [Survey.metaUnder?_eq later, Survey.metaUnder?_eq before, held, moved] at stored
  have states := congrArg (Survey.statesIn status ∘ Document.named) (Option.some.inj stored)
  have inStatus : edited.statesIn status = form.statesIn status := by
    rw [Form.statesIn, Form.statesIn, kept]
  simp only [Function.comp_apply, Form.named_metaDocument, Survey.statesIn_meta,
    Form.statesIn_moved, inStatus] at states
  have counted := congrArg List.length states
  simp at counted

/-- A caller holds a survey of the caller's own if the ledger says so. -/
theorem holdsOwn_iff (shows : Shows desk ledger) (sound : ledger.Sound) :
    HoldsOwn desk id caller ↔
      ∃ form, form.id = id ∧ ledger.own (.str form.id) caller = .ok form := by
  constructor
  · rintro ⟨found, there, owner, present⟩
    rw [Survey.metaUnder?_eq shows] at there
    obtain ⟨form, added, rfl⟩ := Option.map_eq_some_iff.mp there
    rw [Form.named_metaDocument, Survey.isOwnedBy_meta, decide_eq_true_eq] at owner
    rw [Form.named_metaDocument, Survey.saysRemoved_meta] at present
    have named := Ledger.id_of_form? added
    refine ⟨form, named, ?_⟩
    rw [named, Ledger.own_of_form? sound added, present, if_pos owner]
    rfl
  · rintro ⟨form, rfl, owned⟩
    obtain ⟨member, present, mine⟩ := Ledger.of_own owned
    have added : ledger.form? form.id = some form := Keyed.find?_of_mem sound.distinct member
    refine ⟨form.metaDocument, ?_, ?_, ?_⟩
    · rw [Survey.metaUnder?_eq shows, added]
      rfl
    · rw [Form.named_metaDocument, Survey.isOwnedBy_meta, decide_eq_true_eq]
      exact mine
    · rw [Form.named_metaDocument, Survey.saysRemoved_meta, present]

/-- What is stored for a survey that a caller holds. -/
theorem owned_of_holdsOwn (shows : Shows desk ledger) (sound : ledger.Sound)
    (own : HoldsOwn desk id caller) : ∃ form, form.id = id ∧
      ledger.own (.str form.id) caller = .ok form ∧ ledger.form? form.id = some form ∧
      contentSaved? desk id = form.code := by
  obtain ⟨form, rfl, owned⟩ := (holdsOwn_iff shows sound).mp own
  have held : ledger.form? form.id = some form :=
    Keyed.find?_of_mem sound.distinct (Ledger.mem_of_own owned)
  exact ⟨form, rfl, owned, held, Survey.contentSaved?_eq shows sound held⟩

/-! ## Requests that fail -/

/-- Whether a request fails and leaves the documents that operations leave, which are others than
those that were there. -/
structure LeavesHalf (setup : Setup) (desk : Desk) (request : Request) (ops : List Op) : Prop where
  fails : ((serve setup request).run desk).1.Fails
  changes : ¬ SameDocuments desk ((serve setup request).run desk).2
  leaves : SameDocuments (Op.run ops desk) ((serve setup request).run desk).2

/-- Who asks to publish a survey that cannot be shown is told that the service broke down, and the
documents are those that publishing leaves. -/
theorem unshowable_is_published (shows : Shows desk ledger) (sound : ledger.Sound)
    (asks : AsksToPublish setup desk.clock request id caller) (own : HoldsOwn desk id caller)
    {found : Document} (there : documentUnder? desk metaCollection id = some found)
    (content : contentSaved? desk id = some code)
    (unshowable : isShowable (shown (.list [found.named, code])) = false) :
    LeavesHalf setup desk request (publishing id caller code) := by
  obtain ⟨path, method, body, claims, admitted, asked, named⟩ := asks
  obtain ⟨form, rfl, owned, added, saved⟩ := owned_of_holdsOwn shows sound own
  have held : form.code = some code := saved.symm.trans content
  rw [Survey.metaUnder?_eq shows, added] at there
  cases there
  obtain ⟨later, published, shown⟩ := outcome_publish shows sound asked named owned held
  obtain ⟨headers, run⟩ := serve_admitted path method admitted published
  have given := (sound.forms form (Ledger.mem_of_own owned)).isWhole
  have broken := success_eq (form.publicationData code ledger.read.now ledger.nextId)
  rw [showable_publication given rfl, unshowable] at broken
  have ran := Survey.shows_run shows sound (publishing form.id caller code)
  have first := Ledger.perform_publish sound owned
  rw [held] at first
  have second := ((ledger.issued form code).perform_record form.id .publish code caller).trans
    (if_pos (sound.fits form (Ledger.mem_of_own owned) code held))
  rw [publishing, Ledger.run, first, Ledger.run, second, Ledger.run] at ran
  constructor
  · rw [run, Except.map, responseOf, broken]
    exact fails_broken headers
  · rw [run]
    exact not_sameDocuments_of_recorded shows shown rfl
  · rw [run]
    exact Survey.sameDocuments_of_shows ran shown

/-- Who asks to copy content that is nested too deeply is told that the service broke down, and
there is one more survey. -/
theorem deep_copy_is_added {title remark : Text} (shows : Shows desk ledger)
    (sound : ledger.Sound) (filled : ledger.Filled)
    (asks : AsksToCopy setup desk.clock request title remark id caller)
    (own : HoldsOwn desk id caller) (content : contentSaved? desk id = some code)
    (deep : ¬ Copyable 5 code) :
    LeavesHalf setup desk request
      [.create (.str title) (.str remark) .null (.str Survey.copyMethod) (.str id) caller] := by
  obtain ⟨path, method, body, claims, admitted, asked, named⟩ := asks
  obtain ⟨form, rfl, owned, -, saved⟩ := owned_of_holdsOwn shows sound own
  have held : form.code = some code := saved.symm.trans content
  obtain ⟨entries, rfl⟩ := (filled form (Ledger.mem_of_own owned)).code code held
  have copied : codeFor (.str title) form.questionType (form.code.getD .null) =
      .object entries := by
    rw [held]
    rfl
  rw [← copied] at deep
  have copies : (Value.str Survey.copyMethod).equals (.str Survey.copyMethod) = true := by decide
  obtain ⟨later, failed, shown⟩ := outcome_halfCopied shows sound asked named owned deep
  obtain ⟨headers, run⟩ := serve_admitted path method admitted failed
  have copy := (Ledger.perform_copy sound owned copies (.str title) (.str remark) .null).trans
    (if_neg deep)
  have ran := Survey.shows_run shows sound
    [.create (.str title) (.str remark) .null (.str Survey.copyMethod) (.str form.id) caller]
  rw [Ledger.run, copy, Ledger.run] at ran
  constructor
  · rw [run]
    exact fails_failure _ headers
  · rw [run]
    exact not_sameDocuments_of_added shows shown
  · rw [run]
    exact Survey.sameDocuments_of_shows ran shown

/-- Who asks to save content that is nested too deeply for a survey without any is told that the
service broke down, and the survey is moved. -/
theorem deep_content_moves {code : Entries} (shows : Shows desk ledger) (sound : ledger.Sound)
    (asks : AsksToSave setup desk.clock request id caller code) (own : HoldsOwn desk id caller)
    (bare : contentSaved? desk id = none) (deep : ¬ Copyable 4 (.object code)) :
    LeavesHalf setup desk request [.saveConfig (.str id) (.object code) caller] := by
  obtain ⟨path, method, body, claims, admitted, asked, named⟩ := asks
  obtain ⟨form, rfl, owned, there, saved⟩ := owned_of_holdsOwn shows sound own
  have nothing : form.code = none := saved.symm.trans bare
  obtain ⟨later, failed, shown⟩ := outcome_halfSaved shows sound asked named owned nothing deep
  obtain ⟨headers, run⟩ := serve_admitted path method admitted failed
  have moves := (Ledger.perform_save (.object code) owned).trans
    (if_neg fun both => by simp [nothing] at both)
  have ran := Survey.shows_run shows sound [.saveConfig (.str form.id) (.object code) caller]
  rw [Ledger.run, moves, Ledger.run] at ran
  have moved : (ledger.saved form (.object code)).form? form.id =
      some ((form.rewritten (.object code)).moved .editing ledger.now) := by
    refine (Ledger.form?_put ledger.read _ form.id).trans ?_
    rw [show ledger.read.form? form.id = some form from there]
    exact congrArg some (if_pos rfl)
  constructor
  · rw [run]
    exact fails_failure _ headers
  · rw [run]
    exact not_sameDocuments_of_moved shows shown there moved rfl
  · rw [run]
    exact Survey.sameDocuments_of_shows ran shown

/-- Content that a copy is made without is there and nested too deeply. -/
theorem deep_of_copied {form : Form} {title : Text} (filled : form.Filled)
    (deep : ¬ Copyable 5 (codeFor (.str title) form.questionType (form.code.getD .null))) :
    ∃ code, form.code = some code ∧ ¬ Copyable 5 code := by
  cases held : form.code with
  | none =>
    obtain ⟨type, typed, -⟩ := filled.questionType
    rw [held, typed] at deep
    exact absurd (Ledger.copyable_default title type) deep
  | some code =>
    obtain ⟨entries, rfl⟩ := filled.code code held
    rw [held] at deep
    exact ⟨_, rfl, deep⟩

/-- A request that fails keeps all documents, or fails halfway. -/
theorem kept_or_halfway (shows : Shows desk ledger) (sound : ledger.Sound)
    (filled : ledger.Filled) (fails : ((serve setup request).run desk).1.Fails) :
    SameDocuments desk ((serve setup request).run desk).2 ∨
      ∃ ops, FailsHalfway setup desk request ops := by
  obtain ⟨left, shown, served⟩ := served_serve shows sound setup request
  generalize (serve setup request).run desk = run at fails shown served ⊢
  obtain ⟨response, later⟩ := run
  have own {form : Form} {caller : Caller} (owned : ledger.own (.str form.id) caller = .ok form) :
      HoldsOwn desk form.id caller ∧ contentSaved? desk form.id = form.code :=
    ⟨(holdsOwn_iff shows sound).mpr ⟨form, rfl, owned⟩, Survey.contentSaved?_eq shows sound
      (Keyed.find?_of_mem sound.distinct (Ledger.mem_of_own owned))⟩
  have gave {form : Form} {caller : Caller} (owned : ledger.own (.str form.id) caller = .ok form) :
      ledger.Gave form.id := sound.forms form (Ledger.mem_of_own owned)
  cases served with
  | kept => exact .inl (Survey.sameDocuments_of_shows shows shown)
  | handled wanted claims body result left headers path method admitted handled =>
    rw [← shows.clock] at admitted
    cases handled with
    | failed | shown => exact .inl (Survey.sameDocuments_of_shows shows shown)
    | added | copied => exact absurd fails (not_fails_success (by rfl) headers)
    | updated _ _ _ form _ _ owned | removed _ form _ owned | saved _ _ form _ _ owned =>
      obtain ⟨_, -, plain⟩ := gave owned
      exact absurd fails (not_fails_success (by rw [plain]; rfl) headers)
    | halfCopied title remark caller form texts asked named owned deep =>
      obtain ⟨mine, content⟩ := own owned
      obtain ⟨code, held, deep⟩ := deep_of_copied (filled form (Ledger.mem_of_own owned)) deep
      exact .inr ⟨_, .copy title remark form.id caller code
        ⟨path, method, body, claims, admitted, asked, named⟩ mine (content.trans held) deep⟩
    | halfSaved code caller form asked named owned bare deep =>
      obtain ⟨mine, content⟩ := own owned
      exact .inr ⟨_, .content form.id caller code
        ⟨path, method, body, claims, admitted, asked, named⟩ mine (content.trans bare) deep⟩
    | published code caller form asked named owned held =>
      have same := showable_publication (gave owned).isWhole
        (show ledger.nextId.isWhole = true from rfl) code ledger.read.now
      cases showable : isShowable (Http.shown (.list [form.metaDocument.named, code])) with
      | true => exact absurd fails (not_fails_success (same.trans showable) headers)
      | false =>
        obtain ⟨mine, content⟩ := own owned
        have there : documentUnder? desk metaCollection form.id = some form.metaDocument := by
          rw [Survey.metaUnder?_eq shows]
          exact congrArg _ (Keyed.find?_of_mem sound.distinct (Ledger.mem_of_own owned))
        exact .inr ⟨_, .publication form.id caller form.metaDocument code
          ⟨path, method, body, claims, admitted, asked, named⟩ mine there (content.trans held)
          showable⟩

/-- A request that fails leaves all documents as they are, unless it fails halfway; then the
documents are those that the operations leave which are done of it. -/
theorem failed_requests_keep_documents (visited : Visited setup desk) (request : Request) :
    (((serve setup request).run desk).1.Fails ∧
        ¬ SameDocuments desk ((serve setup request).run desk).2 ↔
      ∃ ops, FailsHalfway setup desk request ops) ∧
    ∀ ops, FailsHalfway setup desk request ops →
      SameDocuments (Op.run ops desk) ((serve setup request).run desk).2 := by
  obtain ⟨ledger, shows, sound, filled⟩ := visited.shows
  have half {ops : List Op} (halfway : FailsHalfway setup desk request ops) :
      LeavesHalf setup desk request ops := by
    cases halfway with
    | publication id caller found code asks own there held unshowable =>
      exact unshowable_is_published shows sound asks own there held unshowable
    | copy title remark id caller code asks own held deep =>
      exact deep_copy_is_added shows sound filled asks own held deep
    | content id caller code asks own bare deep =>
      exact deep_content_moves shows sound asks own bare deep
  refine ⟨⟨?_, ?_⟩, fun ops halfway => (half halfway).leaves⟩
  · rintro ⟨fails, others⟩
    exact (kept_or_halfway shows sound filled fails).resolve_left others
  · rintro ⟨ops, halfway⟩
    exact ⟨(half halfway).fails, (half halfway).changes⟩

/-! ## A number that cannot be shown -/

/-- The claims that Ida was given at second 1000. -/
def idasClaims : Entries := Session.issuedClaims (.str "ida") .null 1000 "jti1" .access

/-- A request of Ida's. -/
def idas (path body : String) : Request :=
  bearing (Session.signedToken (unshared.secrets.of .access) (.object idasClaims)) path body

/-- Ida adds a survey. -/
def idasAddition : Request :=
  idas "/api/surveyManage/add"
    "\x7b\"title\":\"t\",\"remark\":\"r\",\"questionType\":\"normal\"\x7d"

/-- Ida saves content that holds a number that cannot be shown. -/
def idasContent : Request :=
  idas "/api/surveyManage/saveConf" "\x7b\"surveyId\":\"id1\",\"configData\":\x7b\"a\":NaN\x7d\x7d"

/-- Ida publishes her survey. -/
def idasPublication : Request := idas "/api/surveyManage/publish" "\x7b\"surveyId\":\"id1\"\x7d"

/-- The caller that Ida is. -/
def ida : Caller := ⟨"ida", "ida"⟩

/-- Ida's token is accepted at second 1000. -/
theorem verified_idasClaims : Session.verify unshared.secrets .access 1000
    (Session.signedToken (unshared.secrets.of .access) (.object idasClaims)) = .ok idasClaims := by
  have started : Session.IsWritable 1000 := Session.isWritable_of_small (by decide)
  have expires : Session.IsWritable (1000 + Session.Use.access.lifetime) :=
    Session.isWritable_of_small (by decide)
  refine (Session.verify_issued unshared.secrets "jti1" .access 1000 (.inl rfl) started
    expires).trans ?_
  rw [Json.rejoined_whole]
  rfl

/-- What Ida sends is admitted at second 1000. -/
theorem admitted_idasRequest {wanted : Operation} {path body : String} {value : Value}
    (reads : wanted.readsBody = true) (sent : (Utf8.encode body.toList).isEmpty = false)
    (read : Json.readOctets (Utf8.encode body.toList) = .ok value) :
    wanted.admitted unshared.secrets (idas path body) 1000 = .ok (.value value, idasClaims) :=
  admitted_bearing reads (Session.visible_signedToken _ _) (Session.signedToken_ne_nil _ _)
    verified_idasClaims sent read

/-- The desk at which Ida has added a survey. -/
def idasFirstDesk : Desk := serveAll unshared [idasAddition] (Desk.opened 1000)

theorem visited_idasFirstDesk : Visited unshared idasFirstDesk :=
  Visited.servedAll (.opened 1000) [idasAddition]

/-- Ida's survey as it was added. -/
def idasFirstForm : Form := .fresh "id1" (.str "t") (.str "r") (.str "normal") ida
  (some (Survey.defaultCode (.str "t") (.str "normal"))) 1000000

/-- What that desk says: her survey. -/
def idasFirstLedger : Ledger := ⟨[idasFirstForm], [], [], [], .still 1000, 1⟩

theorem sound_idasFirstLedger : idasFirstLedger.Sound := by
  have added := Ledger.sound_perform (Ledger.sound_opened 1000)
    (.add (.str "t") (.str "r") (.str "normal") ida .null)
  rwa [Ledger.perform_add "t" "r" "normal"] at added

theorem shows_idasFirstDesk : Shows idasFirstDesk idasFirstLedger := by
  let addition : Entries :=
    [("title", .str "t"), ("remark", .str "r"), ("questionType", .str "normal")]
  have asked : AddRequest.ofBody (.value (.object addition)) = .ok ⟨"r", "normal", "t"⟩ := rfl
  have named : Caller.ofClaims (.object idasClaims) = .ok ida := rfl
  obtain ⟨after, added, shows⟩ :=
    outcome_add (Survey.shows_opened 1000) (Ledger.sound_opened 1000) asked named
  have admitted : Operation.add.admitted unshared.secrets idasAddition (Desk.opened 1000).clock =
      .ok (.value (.object addition), idasClaims) := admitted_idasRequest rfl rfl rfl
  obtain ⟨_, run⟩ := serve_admitted rfl rfl admitted added
  have desk : idasFirstDesk = after := by rw [idasFirstDesk, serveAll, run, serveAll]
  rw [desk]
  exact shows

theorem own_idasFirstForm : idasFirstLedger.own (.str idasFirstForm.id) ida = .ok idasFirstForm :=
  Ledger.own_of_mem sound_idasFirstLedger (List.mem_singleton_self idasFirstForm) ida

/-- The desk at which Ida has added a survey and saved its content. -/
def idasDesk : Desk := serveAll unshared [idasAddition, idasContent] (Desk.opened 1000)

/-- What Ida saves. -/
def idasCode : Value := .object [("a", .float .nan)]

/-- Ida's survey once its content has been saved. -/
def idasSurvey : Form := (idasFirstForm.rewritten idasCode).moved .editing 1000000

/-- What Ida's desk says: her survey, and that its content was saved. -/
def idasLedger : Ledger :=
  ⟨[idasSurvey], [], [], [⟨"id2", .str "id1", .daily, idasCode, ida, 1000000⟩], .still 1000, 2⟩

theorem shows_idasDesk : Shows idasDesk idasLedger ∧ idasLedger.Sound := by
  have named : Caller.ofClaims (.object idasClaims) = .ok ida := rfl
  let saving : Entries := [("surveyId", .str "id1"), ("configData", idasCode)]
  have saves : SaveRequest.ofBody (.value (.object saving)) =
      .ok ⟨idasFirstForm.id, idasCode⟩ := rfl
  have fits : Copyable 4 idasCode := by decide
  obtain ⟨after, saved, shown⟩ :=
    outcome_save shows_idasFirstDesk sound_idasFirstLedger saves named own_idasFirstForm fits
  have admitted : Operation.saveConfig.admitted unshared.secrets idasContent idasFirstDesk.clock =
      .ok (.value (.object saving), idasClaims) := by
    rw [shows_idasFirstDesk.clock]
    exact admitted_idasRequest rfl rfl rfl
  obtain ⟨_, run⟩ := serve_admitted rfl rfl admitted saved
  have onward : idasDesk = serveAll unshared [idasContent] idasFirstDesk :=
    serveAll_append unshared [idasAddition] [idasContent] (Desk.opened 1000)
  have desk : idasDesk = after := by rw [onward, serveAll, run, serveAll]
  have handled : Handled idasFirstLedger idasClaims (.value (.object saving)) .saveConfig _ _ :=
    .saved [("a", .float .nan)] ida idasFirstForm saves named own_idasFirstForm fits
  have same : (idasFirstLedger.saved idasFirstForm idasCode).recorded idasFirstForm.id .daily
      idasCode ida = idasLedger := by with_unfolding_all rfl
  rw [desk, ← same]
  exact ⟨shown, handled.sound sound_idasFirstLedger⟩

/-- Ida may work on her survey. -/
theorem own_idasSurvey : idasLedger.own (.str "id1") ida = .ok idasSurvey :=
  Ledger.own_of_mem shows_idasDesk.2 (List.mem_singleton_self idasSurvey) ida

/-- Ida's survey, as it is stored, holds what cannot be shown. -/
private theorem holds_idasSurvey :
    HoldsOwn idasDesk "id1" ida ∧ contentSaved? idasDesk "id1" = some idasCode :=
  ⟨(holdsOwn_iff shows_idasDesk.1 shows_idasDesk.2).mpr ⟨idasSurvey, rfl, own_idasSurvey⟩,
    (Survey.contentSaved?_eq shows_idasDesk.1 shows_idasDesk.2
      (show idasLedger.form? "id1" = some idasSurvey from rfl)).trans rfl⟩

private theorem there_idasSurvey :
    documentUnder? idasDesk metaCollection "id1" = some idasSurvey.metaDocument :=
  (Survey.metaUnder?_eq shows_idasDesk.1 "id1").trans rfl

private theorem asks_idasPublication :
    AsksToPublish unshared idasDesk.clock idasPublication "id1" ida := by
  rw [shows_idasDesk.1.clock]
  exact ⟨rfl, rfl, .value (.object [("surveyId", .str "id1")]), idasClaims,
    admitted_idasRequest rfl rfl rfl, rfl, rfl⟩

private theorem idasPublication_halfway :
    FailsHalfway unshared idasDesk idasPublication (publishing "id1" ida idasCode) :=
  .publication "id1" ida idasSurvey.metaDocument idasCode asks_idasPublication holds_idasSurvey.1
    there_idasSurvey holds_idasSurvey.2 rfl

/-- Ida is told that the service broke down, but her survey is published. -/
theorem publication_fails_halfway :
    Visited unshared idasDesk ∧ ((serve unshared idasPublication).run idasDesk).1.Fails ∧
      ¬ SameDocuments idasDesk ((serve unshared idasPublication).run idasDesk).2 := by
  have visited : Visited unshared idasDesk :=
    Visited.servedAll (.opened 1000) [idasAddition, idasContent]
  obtain ⟨ledger, shows, sound, filled⟩ := visited.shows
  have half := unshowable_is_published shows sound asks_idasPublication holds_idasSurvey.1
    there_idasSurvey holds_idasSurvey.2 rfl
  exact ⟨visited, half.fails, half.changes⟩

/-- What Ida's publication leaves is what publishing leaves. -/
theorem failed_requests_keep_documents_notFinite :
    Visited unshared idasDesk ∧
      FailsHalfway unshared idasDesk idasPublication (publishing "id1" ida idasCode) ∧
      ((serve unshared idasPublication).run idasDesk).1.Fails ∧
      SameDocuments (Op.run (publishing "id1" ida idasCode) idasDesk)
        ((serve unshared idasPublication).run idasDesk).2 := by
  have visited : Visited unshared idasDesk :=
    Visited.servedAll (.opened 1000) [idasAddition, idasContent]
  obtain ⟨exactly, leaves⟩ := failed_requests_keep_documents visited idasPublication
  exact ⟨visited, idasPublication_halfway, (exactly.mpr ⟨_, idasPublication_halfway⟩).1,
    leaves _ idasPublication_halfway⟩

end SurveyDesk.Http
