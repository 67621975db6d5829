import SurveyDesk.Http.Service
import SurveyDesk.Proofs.Http.Handling

/-! Everything that serving a request comes to, and the desks that requests lead to. What a request
does to the documents is what operations of the desk do, one after another, so every desk that
requests lead to shows a ledger that keeps the rules. The bodies of requests are looked at before
anything is stored, so the texts of a survey are never empty and its content is always an object. -/
namespace SurveyDesk.Survey

/-- A text that is not empty. -/
def IsFilledText (value : Value) : Prop := ∃ text, value = .str text ∧ text ≠ ""

/-- A survey whose title, remark and kind of questions are texts that are not empty, and whose
content is an object, if it has any. -/
structure Form.Filled (form : Form) : Prop where
  title : IsFilledText form.title
  remark : IsFilledText form.remark
  questionType : IsFilledText form.questionType
  code : ∀ code, form.code = some code → ∃ entries, code = .object entries

namespace Ledger

/-- A ledger whose surveys are all filled. -/
def Filled (ledger : Ledger) : Prop := ∀ form ∈ ledger.forms, form.Filled

variable {ledger : Ledger} {edited : Form}

theorem filled_put (filled : ledger.Filled) (new : edited.Filled) : (ledger.put edited).Filled := by
  intro form member
  rcases of_mem_put member with rfl | ⟨earlier, -⟩
  · exact new
  · exact filled form earlier

/-- A survey is filled that is added without content or with an object. -/
theorem filled_added {title remark questionType : Value} {code : Option Value}
    (filled : ledger.Filled) (titled : IsFilledText title) (remarked : IsFilledText remark)
    (typed : IsFilledText questionType)
    (content : ∀ given, code = some given → ∃ entries, given = .object entries)
    (caller : Caller) : (ledger.added title remark questionType caller code).Filled := by
  intro form member
  rcases List.mem_append.mp member with earlier | here
  · exact filled form earlier
  · rw [List.mem_singleton.mp here]
    exact ⟨titled, remarked, typed, content⟩

/-- The content of a copy is the default or an object. -/
theorem isObject_copied {form : Form} (filled : form.Filled) (title : Value) :
    ∃ entries, codeFor title form.questionType (form.code.getD .null) = .object entries := by
  cases held : form.code with
  | none => exact ⟨_, rfl⟩
  | some code =>
    obtain ⟨entries, rfl⟩ := filled.code code held
    exact ⟨entries, rfl⟩

end Ledger
end SurveyDesk.Survey

namespace SurveyDesk.Http

open Handling
open Session (Secrets)
open Survey (Form Ledger Op Shows)

variable {setup : Setup} {secrets : Secrets} {desk : Desk} {ledger left : Ledger}
  {claims : Entries} {body : RequestBody} {wanted : Operation} {request : Request}
  {result : Except Failure Value}

/-! ## What a request does -/

/-- A request, what it is answered, and the ledger that it leaves. -/
inductive Served (setup : Setup) (request : Request) (ledger : Ledger) :
    Response → Ledger → Prop where
  | kept (response : Response) : Served setup request ledger response ledger
  | handled (wanted : Operation) (claims : Entries) (body : RequestBody)
    (result : Except Failure Value) (left : Ledger) (headers : List Field)
    (path : Route.ofPath? request.path = some (.operation wanted))
    (method : request.method = (Route.operation wanted).method)
    (admitted : wanted.admitted setup.secrets request ledger.clock = .ok (body, claims))
    (handled : Handled ledger claims body wanted result left) :
    Served setup request ledger { responseOf (result.map success) with headers } left

/-- What a request on a route is answered, and the desk that it leaves. -/
theorem respond_run (setup : Setup) (request : Request) (desk : Desk) :
    (respond setup request).run desk =
      match Route.ofPath? request.path with
      | none => (unrouted request.path, desk)
      | some route =>
        if request.method = route.method then
          (responseOf ((route.answer setup.secrets request).outcome desk).1,
            ((route.answer setup.secrets request).outcome desk).2)
        else (methodNotAllowed route, desk) := by
  unfold respond
  cases Route.ofPath? request.path with
  | none => rfl
  | some route =>
    by_cases allowed : request.method = route.method
    · simp only [if_pos allowed]
      exact StateT.run_map _ _ _
    · simp only [if_neg allowed]
      rfl

/-- A browser that asks in advance is told what is shared and nothing else happens. Any other
request is answered on its route, and the response may be shared with the site it comes from. -/
theorem serve_run {response : Response} {after : Desk}
    (responded : (respond setup request).run desk = (response, after)) :
    (request.method = "OPTIONS" ∧ ∃ shared, (serve setup request).run desk = (shared, desk)) ∨
      ∃ more : List Field, (∀ field ∈ more, field.1 = originHeader) ∧
        (serve setup request).run desk =
          ({ response with headers := response.headers ++ more }, after) := by
  have alone : ({ response with headers := response.headers ++ [] } : Response) = response := by
    rw [List.append_nil]
  unfold serve
  cases (request.header? "origin").map String.ofList with
  | none => exact .inr ⟨[], nofun, by rw [alone]; exact responded⟩
  | some origin =>
    dsimp only
    cases asked : (request.header? "access-control-request-method").filter
        fun _ => request.method = "OPTIONS" with
    | some method =>
      have options : request.method = "OPTIONS" := by
        simpa using (Option.filter_eq_some_iff.mp asked).2
      exact .inl ⟨options, _, rfl⟩
    | none =>
      refine .inr ?_
      dsimp only
      rw [StateT.run_bind, responded]
      change ∃ more : List Field, (∀ field ∈ more, field.1 = originHeader) ∧
        ((if response.status = 500 then response else sharedWith setup origin response), after) =
          (({ response with headers := response.headers ++ more } : Response), after)
      by_cases broken : response.status = 500
      · exact ⟨[], nofun, by rw [if_pos broken, alone]⟩
      · rw [if_neg broken, sharedWith]
        split
        · exact ⟨[(originHeader, origin)], by simp, rfl⟩
        · exact ⟨[], nofun, by rw [alone]⟩

/-! ## Requests that store nothing -/

private theorem shows_tokens (shows : Shows desk ledger) (tokensGiven : Nat) :
    Shows { desk with tokensGiven } ledger :=
  ⟨shows.metas, shows.configs, shows.publications, shows.responses, shows.snapshots, shows.time,
    shows.idsGiven⟩

private theorem shows_issue (shows : Shows desk ledger) (secrets : Secrets) (user : Value) :
    Shows ((Session.issue secrets user).outcome desk).2 ledger := by
  simp only [Session.issue, Session.issueAt, Work.outcome_bind, Work.outcome_get,
    Work.outcome_ofOutcome]
  cases Session.pairFor secrets user desk.clock ("jti" ++ toString (desk.tokensGiven + 1)) with
  | error fault => exact shows
  | ok pair => exact shows_tokens shows _

/-- Whoever refreshes tokens leaves all documents as they are. -/
private theorem shows_refresh (shows : Shows desk ledger) (secrets : Secrets) (request : Request) :
    Shows ((answerRefresh secrets request).outcome desk).2 ledger := by
  simp only [answerRefresh, outcome_bind, outcome_get, outcome_known]
  cases keeperClaims secrets request desk.clock with
  | error failure => exact shows
  | ok claims =>
    dsimp only
    rw [outcome_ofWork]
    have issued := shows_issue shows secrets (.object [("sub", (claims.get? "sub").getD .null),
      ("username", (claims.get? "username").getD .null)])
    generalize (Session.issue secrets _).outcome desk = outcome at issued ⊢
    obtain ⟨answer, after⟩ := outcome
    cases answer with
    | error fault => exact issued
    | ok pair => exact issued

/-- Work that only reads leaves all documents as they are. -/
private theorem shows_read {wrap : α → Survey.Reply} {work : Work α} (shows : Shows desk ledger)
    (sound : ledger.Sound) (op : Op) (made : op.perform = wrap <$> work)
    (kept : (ledger.perform op).2 = ledger) : Shows ((ofWork work).outcome desk).2 ledger := by
  obtain ⟨result, after, outcome, -, shown⟩ := outcome_work shows sound op made
  rw [outcome]
  exact kept ▸ shown

private theorem shows_history (shows : Shows desk ledger) (sound : ledger.Sound)
    (request : Request) : Shows ((answerHistory request).outcome desk).2 ledger := by
  unfold answerHistory
  cases read : HistoryRequest.ofRequest request with
  | error fault => exact shows
  | ok input =>
    exact shows_read shows sound (.historyList (.str input.survey) (.str input.type)) rfl rfl

/-! ## Requests for operations -/

/-- A request for an operation is handled once it is admitted. -/
theorem answer_operation (wanted : Operation) (secrets : Secrets) (request : Request)
    (desk : Desk) :
    ((Route.operation wanted).answer secrets request).outcome desk =
      match wanted.admitted secrets request desk.clock with
      | .ok (body, claims) =>
        (((wanted.answer claims body request).outcome desk).1.map success,
          ((wanted.answer claims body request).outcome desk).2)
      | .error failure => (.error failure, desk) := by
  rw [Route.answer, outcome_bind_ok (outcome_get desk)]
  dsimp only
  cases wanted.admitted secrets request desk.clock with
  | error failure => rfl
  | ok admitted =>
    rw [outcome_bind_ok (outcome_known (.ok admitted) desk)]
    exact outcome_map success (wanted.answer admitted.2 admitted.1 request) desk

theorem operation_not_options (method : request.method = (Route.operation wanted).method) :
    request.method ≠ "OPTIONS" := by
  rw [method]
  cases wanted <;> decide

/-- A request for an operation is answered as its route answers it, with a header more or less. -/
theorem serve_operation {answer : Except Failure Response} {after : Desk}
    (path : Route.ofPath? request.path = some (.operation wanted))
    (method : request.method = (Route.operation wanted).method)
    (answered : ((Route.operation wanted).answer setup.secrets request).outcome desk =
      (answer, after)) :
    ∃ headers, (serve setup request).run desk = ({ responseOf answer with headers }, after) := by
  have responded := respond_run setup request desk
  rw [path] at responded
  simp only [if_pos method, answered] at responded
  rcases serve_run responded with ⟨options, -⟩ | ⟨more, -, run⟩
  · exact absurd options (operation_not_options method)
  · exact ⟨_, run⟩

/-- A request that is admitted is answered as it is handled, with a header more or less. -/
theorem serve_admitted {after : Desk}
    (path : Route.ofPath? request.path = some (.operation wanted))
    (method : request.method = (Route.operation wanted).method)
    (admitted : wanted.admitted setup.secrets request desk.clock = .ok (body, claims))
    (handled : (wanted.answer claims body request).outcome desk = (result, after)) :
    ∃ headers, (serve setup request).run desk =
      ({ responseOf (result.map success) with headers }, after) := by
  apply serve_operation path method
  rw [answer_operation, admitted]
  dsimp only
  rw [handled]

/-- On a route that is open to all nothing is stored. -/
private theorem shows_open (shows : Shows desk ledger) (sound : ledger.Sound) {route : Route}
    (others : ∀ wanted, route ≠ .operation wanted) :
    Shows ((route.answer secrets request).outcome desk).2 ledger := by
  cases route with
  | health | logout => exact shows
  | refresh => exact shows_refresh shows secrets request
  | banners =>
    rw [Route.answer, outcome_map]
    exact shows_read shows sound (.bannerData none) rfl rfl
  | history =>
    rw [Route.answer, outcome_map]
    exact shows_history shows sound request
  | operation wanted => exact absurd rfl (others wanted)

/-- A request that stores nothing keeps the ledger. -/
private theorem served_kept {response : Response} {after : Desk} (shows : Shows desk ledger)
    (responded : (respond setup request).run desk = (response, after))
    (shown : Shows after ledger) :
    ∃ left, Shows ((serve setup request).run desk).2 left ∧
      Served setup request ledger ((serve setup request).run desk).1 left := by
  rcases serve_run responded with ⟨-, shared, run⟩ | ⟨more, -, run⟩
  · rw [run]
    exact ⟨ledger, shows, .kept shared⟩
  · rw [run]
    exact ⟨ledger, shown, .kept _⟩

/-- Serving a request comes to one of the cases, whatever the request. -/
theorem served_serve (shows : Shows desk ledger) (sound : ledger.Sound) (setup : Setup)
    (request : Request) :
    ∃ left, Shows ((serve setup request).run desk).2 left ∧
      Served setup request ledger ((serve setup request).run desk).1 left := by
  have responded := respond_run setup request desk
  cases path : Route.ofPath? request.path with
  | none =>
    rw [path] at responded
    exact served_kept shows responded shows
  | some route =>
    rw [path] at responded
    by_cases method : request.method = route.method
    · simp only [if_pos method] at responded
      cases route with
      | health | refresh | logout | banners | history =>
        exact served_kept shows responded (shows_open shows sound nofun)
      | operation wanted =>
        cases admitted : wanted.admitted setup.secrets request desk.clock with
        | error failure =>
          rw [answer_operation, admitted] at responded
          exact served_kept shows responded shows
        | ok found =>
          obtain ⟨body, claims⟩ := found
          obtain ⟨left, shown, handled⟩ := comes_answer shows sound wanted claims body request
          obtain ⟨headers, run⟩ := serve_admitted path method admitted rfl
          rw [run]
          rw [shows.clock] at admitted
          exact ⟨left, shown,
            .handled wanted claims body _ left headers path method admitted handled⟩
    · simp only [if_neg method] at responded
      exact served_kept shows responded shows

/-! ## The desks that requests lead to -/

/-- The desk after several requests, one after another. -/
def serveAll (setup : Setup) : List Request → Desk → Desk
  | [], desk => desk
  | request :: rest, desk => serveAll setup rest ((serve setup request).run desk).2

theorem serveAll_append (setup : Setup) (first second : List Request) (desk : Desk) :
    serveAll setup (first ++ second) desk =
      serveAll setup second (serveAll setup first desk) := by
  induction first generalizing desk with
  | nil => rfl
  | cons request rest ih => exact ih _

/-- The desks that requests lead to from one without documents, in any order and whatever they are
answered, while time passes between them and within them as it will. -/
inductive Visited (setup : Setup) : Desk → Prop where
  | opened (clock : Int) : Visited setup (Desk.opened clock)
  | served {before : Desk} (visited : Visited setup before) (request : Request) :
    Visited setup ((serve setup request).run before).2
  | later {before : Desk} (visited : Visited setup before) (seconds : Int) :
    Visited setup (before.later seconds)
  | paced {before : Desk} (visited : Visited setup before) (passing : List Int) :
    Visited setup (before.paced passing)

theorem Visited.servedAll (visited : Visited setup desk) (requests : List Request) :
    Visited setup (serveAll setup requests desk) := by
  induction requests generalizing desk with
  | nil => exact visited
  | cons request rest ih => exact ih (visited.served request)

/-- The desks that requests lead to from a desk, whatever they are answered, while time passes
between them and within them as it will. -/
inductive Onward (setup : Setup) (start : Desk) : Desk → Prop where
  | here : Onward setup start start
  | served {before : Desk} (onward : Onward setup start before) (request : Request) :
    Onward setup start ((serve setup request).run before).2
  | later {before : Desk} (onward : Onward setup start before) (seconds : Int) :
    Onward setup start (before.later seconds)
  | paced {before : Desk} (onward : Onward setup start before) (passing : List Int) :
    Onward setup start (before.paced passing)

theorem Visited.onward (visited : Visited setup desk) :
    ∃ clock, Onward setup (Desk.opened clock) desk := by
  induction visited with
  | opened clock => exact ⟨clock, .here⟩
  | served _ request ih =>
    obtain ⟨clock, onward⟩ := ih
    exact ⟨clock, onward.served request⟩
  | later _ seconds ih =>
    obtain ⟨clock, onward⟩ := ih
    exact ⟨clock, onward.later seconds⟩
  | paced _ passing ih =>
    obtain ⟨clock, onward⟩ := ih
    exact ⟨clock, onward.paced passing⟩

private theorem run_pair {between : Ledger} {first second : Op}
    {one two : Except Fault Survey.Reply} (earlier : ledger.perform first = (one, between))
    (later : between.perform second = (two, left)) : left = ledger.run [first, second] := by
  rw [Ledger.run, earlier, Ledger.run, later, Ledger.run]

/-- What handling a request does to a ledger is what operations do, one after another. -/
theorem Handled.ran (sound : ledger.Sound)
    (handled : Handled ledger claims body wanted result left) : ∃ ops, left = ledger.run ops := by
  have copies : (Value.str Survey.copyMethod).equals (.str Survey.copyMethod) = true := by decide
  cases handled with
  | failed | shown => exact ⟨[], rfl⟩
  | added _ _ title remark questionType caller =>
    exact ⟨[_], (congrArg Prod.snd (ledger.perform_add title remark questionType caller)).symm⟩
  | copied title remark caller form _ _ _ owned fits =>
    have copied := (Ledger.perform_copy sound owned copies (.str title) (.str remark) .null).trans
      (if_pos fits)
    exact ⟨[_], (congrArg Prod.snd copied).symm⟩
  | halfCopied title remark caller form _ _ _ owned deep =>
    have copied := (Ledger.perform_copy sound owned copies (.str title) (.str remark) .null).trans
      (if_neg deep)
    exact ⟨[_], (congrArg Prod.snd copied).symm⟩
  | updated title remark caller form _ _ owned =>
    have updated := Ledger.perform_update (.str title) (.str remark) owned
    exact ⟨[_], (congrArg Prod.snd updated).symm⟩
  | removed caller form _ owned =>
    have removed : ledger.perform (.delete (.str form.id) caller) = _ :=
      Ledger.perform_withOwn owned
    exact ⟨[_], (congrArg Prod.snd removed).symm⟩
  | saved code caller form _ _ owned fits =>
    have saved := (Ledger.perform_save _ owned).trans (if_neg fun both => both.2 fits)
    have recorded := ((ledger.saved form (.object code)).perform_record form.id .daily
      (.object code) caller).trans (if_pos fits)
    exact ⟨[_, _], run_pair saved recorded⟩
  | halfSaved code caller form _ _ owned bare deep =>
    have saved := (Ledger.perform_save (.object code) owned).trans
      (if_neg fun both => by simp [bare] at both)
    have recorded := ((ledger.saved form (.object code)).perform_record form.id .daily
      (.object code) caller).trans (if_neg deep)
    exact ⟨[_, _], run_pair saved recorded⟩
  | published code caller form _ _ owned held =>
    have published := Ledger.perform_publish sound owned
    rw [held] at published
    have fits : Copyable 4 code := sound.fits form (Ledger.mem_of_own owned) code held
    have recorded := ((ledger.issued form code).perform_record form.id .publish code
      caller).trans (if_pos fits)
    exact ⟨[_, _], run_pair published recorded⟩

/-- Handling a request breaks none of the rules. -/
theorem Handled.sound (handled : Handled ledger claims body wanted result left)
    (sound : ledger.Sound) : left.Sound := by
  obtain ⟨ops, ran⟩ := handled.ran sound
  exact ran ▸ Ledger.sound_run sound ops

theorem filled_handled (filled : ledger.Filled)
    (handled : Handled ledger claims body wanted result left) : left.Filled := by
  cases handled with
  | failed | shown => exact filled
  | added _ _ title remark questionType caller texts =>
    simp only [List.forall_mem_cons] at texts
    exact Ledger.filled_added filled ⟨title, rfl, texts.1⟩ ⟨remark, rfl, texts.2.1⟩
      ⟨questionType, rfl, texts.2.2.1⟩ (fun _ same => ⟨_, (Option.some.inj same).symm⟩) caller
  | copied title remark caller form texts _ _ owned =>
    have source := filled form (Ledger.mem_of_own owned)
    simp only [List.forall_mem_cons] at texts
    exact Ledger.filled_added filled ⟨title, rfl, texts.1⟩ ⟨remark, rfl, texts.2.1⟩
      source.questionType
      (fun _ same => Option.some.inj same ▸ Ledger.isObject_copied source _) caller
  | halfCopied title remark caller form texts _ _ owned =>
    have source := filled form (Ledger.mem_of_own owned)
    simp only [List.forall_mem_cons] at texts
    exact Ledger.filled_added filled ⟨title, rfl, texts.1⟩ ⟨remark, rfl, texts.2.1⟩
      source.questionType (fun _ same => absurd same.symm (Option.some_ne_none _)) caller
  | updated title remark caller form texts _ owned =>
    have old := filled form (Ledger.mem_of_own owned)
    simp only [List.forall_mem_cons] at texts
    exact Ledger.filled_put filled
      ⟨⟨title, rfl, texts.1⟩, ⟨remark, rfl, texts.2.1⟩, old.questionType, old.code⟩
  | saved code caller form _ _ owned | halfSaved code caller form _ _ owned =>
    have old := filled form (Ledger.mem_of_own owned)
    refine Ledger.filled_put filled ⟨old.title, old.remark, old.questionType, fun given same => ?_⟩
    obtain ⟨-, -, rfl⟩ := Option.map_eq_some_iff.mp same
    exact ⟨code, rfl⟩
  | removed caller form _ owned | published _ caller form _ _ owned =>
    have old := filled form (Ledger.mem_of_own owned)
    exact Ledger.filled_put filled ⟨old.title, old.remark, old.questionType, old.code⟩

/-- A rule that holds of the ledger of a desk, and that handling a request and the passing of time
keep, holds of the ledgers of all desks that requests lead to from there. -/
theorem Onward.keeps (rule : Ledger → Prop) {start : Desk} (onward : Onward setup start desk)
    (shows : Shows start ledger) (sound : ledger.Sound) (begins : rule ledger)
    (handled : ∀ {before : Ledger} {claims body wanted result left}, before.Sound → rule before →
      Handled before claims body wanted result left → rule left)
    (later : ∀ {before : Ledger} (time : Time), rule before → rule { before with time }) :
    ∃ left : Ledger, Shows desk left ∧ left.Sound ∧ rule left := by
  induction onward with
  | here => exact ⟨ledger, shows, sound, begins⟩
  | served onward request ih =>
    obtain ⟨before, shows, sound, held⟩ := ih
    obtain ⟨left, shown, served⟩ := served_serve shows sound setup request
    generalize ((serve setup request).run _).1 = response at served
    cases served with
    | kept => exact ⟨_, shown, sound, held⟩
    | handled wanted claims body result left headers path method admitted did =>
      exact ⟨_, shown, did.sound sound, handled sound held did⟩
  | later onward seconds ih =>
    obtain ⟨before, shows, sound, held⟩ := ih
    exact ⟨_, Survey.shows_after shows sound (.wait seconds),
      Ledger.sound_perform sound (.wait seconds), later _ held⟩
  | paced onward passing ih =>
    obtain ⟨before, shows, sound, held⟩ := ih
    exact ⟨_, Survey.shows_after shows sound (.pace passing),
      Ledger.sound_perform sound (.pace passing), later _ held⟩

/-- Every desk that requests lead to shows a ledger that keeps the rules, with surveys that are
filled. -/
theorem Visited.shows (visited : Visited setup desk) :
    ∃ ledger : Ledger, Shows desk ledger ∧ ledger.Sound ∧ ledger.Filled := by
  obtain ⟨clock, onward⟩ := visited.onward
  have begins : (Ledger.opened clock).Filled := fun form member => nomatch member
  exact onward.keeps Ledger.Filled (Survey.shows_opened clock) (Ledger.sound_opened clock) begins
    (fun _ filled did => filled_handled filled did) fun _ filled => filled

end SurveyDesk.Http
