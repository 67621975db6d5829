import SurveyDesk.Proofs.Http.ListFaults
import SurveyDesk.Proofs.Survey.Pages

/-! Pages of what requests show. Whoever turns the pages of a list or of a table of responses, with
one size and without anything else happening in between, sees everything that was asked for once and
nothing twice, wherever the size and the numbers of the pages come from. -/
namespace SurveyDesk.Http

open Handling
open Survey (Form Ledger Op Reply Shows FindsAll orderOr pageAnswered listScope listFault having
  newestFirst belongs isResponseTo documentsIn metaCollection responseCollection)

variable {setup : Setup} {desk : Desk} {ledger left : Ledger} {claims : Entries}
  {body : RequestBody} {wanted : Operation} {request : Request} {caller : Caller}
  {result : Except Failure Value}

/-! ## Desks with responses -/

/-- The desks that requests lead to while surveys are responded to as well, which no request does,
and time passes as it will. -/
inductive Frequented (setup : Setup) : Desk → Prop where
  | opened (clock : Int) : Frequented setup (Desk.opened clock)
  | served {before : Desk} (frequented : Frequented setup before) (request : Request) :
    Frequented setup ((serve setup request).run before).2
  | responded {before : Desk} (frequented : Frequented setup before) (survey answers : Value) :
    Frequented setup ((Op.addResponse survey answers).after before)
  | later {before : Desk} (frequented : Frequented setup before) (seconds : Int) :
    Frequented setup (before.later seconds)
  | paced {before : Desk} (frequented : Frequented setup before) (passing : List Int) :
    Frequented setup (before.paced passing)

theorem Visited.frequented (visited : Visited setup desk) : Frequented setup desk := by
  induction visited with
  | opened clock => exact .opened clock
  | served _ request ih => exact ih.served request
  | later _ seconds ih => exact ih.later seconds
  | paced _ passing ih => exact ih.paced passing

/-- A ledger whose surveys are filled and that has no two responses under one id. -/
structure Kempt (ledger : Ledger) : Prop where
  filled : ledger.Filled
  distinct : (ledger.responses.map Survey.Response.id).Nodup

theorem Handled.responses (handled : Handled ledger claims body wanted result left) :
    left.responses = ledger.responses := by
  cases handled <;> rfl

theorem kempt_handled (kempt : Kempt ledger)
    (handled : Handled ledger claims body wanted result left) : Kempt left :=
  ⟨filled_handled kempt.filled handled, by rw [handled.responses]; exact kempt.distinct⟩

theorem kempt_addResponse (sound : ledger.Sound) (kempt : Kempt ledger) (survey answers : Value) :
    Kempt (ledger.perform (.addResponse survey answers)).2 := by
  rw [Ledger.perform, Ledger.addResponse]
  split
  · dsimp only
    split
    · refine ⟨kempt.filled, ?_⟩
      rw [List.map_append]
      exact Ledger.nodup_nextId kempt.distinct (List.forall_mem_map.mpr sound.responses)
    · exact ⟨kempt.filled, kempt.distinct⟩
  · exact kempt

/-- A rule that holds of ledgers without entries, and that handling a request, adding a response and
the passing of time keep, holds of the ledgers of all desks that are frequented. -/
theorem Frequented.keeps (rule : Ledger → Prop) (frequented : Frequented setup desk)
    (begins : ∀ clock, rule (Ledger.opened clock))
    (handled : ∀ {before : Ledger} {claims body wanted result left}, before.Sound → rule before →
      Handled before claims body wanted result left → rule left)
    (responded : ∀ {before : Ledger} (survey answers : Value), before.Sound → rule before →
      rule (before.perform (.addResponse survey answers)).2)
    (later : ∀ {before : Ledger} (time : Time), rule before → rule { before with time }) :
    ∃ ledger : Ledger, Shows desk ledger ∧ ledger.Sound ∧ rule ledger := by
  induction frequented with
  | opened clock =>
    exact ⟨_, Survey.shows_opened clock, Ledger.sound_opened clock, begins clock⟩
  | served _ request ih =>
    obtain ⟨ledger, shows, sound, held⟩ := ih
    exact (Onward.here.served request).keeps rule shows sound held handled later
  | responded _ survey answers ih =>
    obtain ⟨ledger, shows, sound, held⟩ := ih
    exact ⟨_, Survey.shows_after shows sound _, Ledger.sound_perform sound _,
      responded survey answers sound held⟩
  | later _ seconds ih =>
    obtain ⟨ledger, shows, sound, held⟩ := ih
    exact ⟨_, Survey.shows_after shows sound (.wait seconds),
      Ledger.sound_perform sound (.wait seconds), later _ held⟩
  | paced _ passing ih =>
    obtain ⟨ledger, shows, sound, held⟩ := ih
    exact ⟨_, Survey.shows_after shows sound (.pace passing),
      Ledger.sound_perform sound (.pace passing), later _ held⟩

theorem Frequented.shows (frequented : Frequented setup desk) :
    ∃ ledger : Ledger, Shows desk ledger ∧ ledger.Sound ∧ Kempt ledger :=
  frequented.keeps Kempt (fun _ => ⟨nofun, List.nodup_nil⟩)
    (fun _ kempt did => kempt_handled kempt did)
    (fun survey answers sound kempt => kempt_addResponse sound kempt survey answers)
    fun _ kempt => ⟨kempt.filled, kempt.distinct⟩

/-! ## Requests for pages -/

/-- A request for an operation that is admitted on behalf of a caller. -/
structure AsksFor (wanted : Operation) (setup : Setup) (now : Int) (caller : Caller)
    (request : Request) : Prop where
  path : Route.ofPath? request.path = some (.operation wanted)
  method : request.method = (Route.operation wanted).method
  admitted : ∃ body claims, wanted.admitted setup.secrets request now = .ok (body, claims) ∧
    Caller.ofClaims (.object claims) = .ok caller

/-- A request for a page of a caller's surveys by a filter and an order. -/
structure AsksForList (setup : Setup) (now : Int) (caller : Caller) (filter order : Option String)
    (number size : Int) (request : Request) : Prop extends
    AsksFor .list setup now caller request where
  number : wholeParameter request "curPage" 1 = .ok number
  size : wholeParameter request "pageSize" pageSizeDefault = .ok size
  filter : textParameter request "filter" = filter
  order : textParameter request "order" = order

/-- A request for a page of the responses to a survey, with its secrets hidden or not. -/
structure AsksForData (setup : Setup) (now : Int) (caller : Caller) (survey : String) (hide : Bool)
    (number size : Int) (request : Request) : Prop extends
    AsksFor .data setup now caller request where
  survey : requiredParameter request "surveyId" = .ok survey
  hide : flagParameter request "isShowSecret" true = .ok hide
  number : wholeParameter request "page" 1 = .ok number
  size : wholeParameter request "pageSize" pageSizeDefault = .ok size

/-- How many entries a page has for a size that is asked for. -/
def entriesPerPage (size : Int) : Nat := if size ≤ 0 then 10 else (min size 1000).toNat

theorem entriesPerPage_pos (size : Int) : 0 < entriesPerPage size := by
  unfold entriesPerPage
  split <;> omega

/-- A page that is brought into range is the page of the number that is asked for. -/
theorem pageItems_within {α : Type} (items : List α) (number size : Int) :
    Store.pageItems items (PageRequest.within number size).number
        (PageRequest.within number size).size =
      Store.pageItems items number (entriesPerPage size : Nat) := by
  have length : (PageRequest.within number size).size = (entriesPerPage size : Nat) := by
    simp only [PageRequest.within, entriesPerPage, pageSizeDefault, pageSizeLimit]
    split <;> omega
  rw [length]
  exact Store.pageItems_max items number _

/-! ## What is answered -/

/-- An answer that is no failure shows data. -/
theorem data_of_not_fails {headers : List Field}
    (answered : ¬ Response.Fails { responseOf (result.map success) with headers }) :
    ∃ data, result = .ok data ∧ { responseOf (result.map success) with headers } =
      (⟨200, .value (envelopeOf (shown data)), headers⟩ : Response) := by
  cases result with
  | error failure => exact absurd (fails_failure failure headers) answered
  | ok data =>
    refine ⟨data, rfl, ?_⟩
    simp only [Except.map, responseOf, success_eq] at answered ⊢
    split at answered
    · rename_i showable
      rw [if_pos showable]
    · exact absurd (fails_broken headers) answered

/-! ## Pages of surveys -/

/-- What a caller is answered that asks for a page of surveys. -/
def listing (desk : Desk) (caller : Caller) (filter order : Option String) (number size : Int) :
    Except Failure Value := do
  let predicate ← predicateOf filter
  let sort ← sortOf order
  ((desk.store.find metaCollection predicate (orderOr sort) (PageRequest.within number size).number
    (PageRequest.within number size).size (some (listScope caller))).mapError
      (Failure.ofFault ∘ listFault)).map pageAnswered

theorem run_list {number size : Int} {filter order : Option String}
    (asks : AsksForList setup desk.clock caller filter order number size request) :
    ∃ headers, (serve setup request).run desk =
      ({ responseOf ((listing desk caller filter order number size).map success) with headers },
        desk) := by
  obtain ⟨body, claims, admitted, named⟩ := asks.admitted
  refine serve_admitted asks.path asks.method admitted ?_
  have read : ListRequest.ofRequest request = .ok ⟨.within number size, filter, order⟩ := by
    rw [ListRequest.ofRequest, PageRequest.ofRequest, asks.number, ok_bind, asks.size, asks.filter,
      asks.order]
    rfl
  rw [Operation.answer, answerList, outcome_input read, listing]
  cases predicated : predicateOf filter with
  | error failure => rfl
  | ok predicate =>
    rw [outcome_bind_ok (outcome_known _ _), ok_bind]
    cases sorted : sortOf order with
    | error failure => rfl
    | ok sort =>
      rw [outcome_bind_ok (outcome_known _ _), ok_bind, outcome_caller named, outcome_ofWork,
        Survey.outcome_list_find]
      generalize Store.find _ _ _ _ _ _ _ = found
      cases found <;> rfl

theorem shown_object {entries : Entries}
    (plain : ∀ entry ∈ entries, isInternal entry.1 = false ∧ shown entry.2 = entry.2) :
    shown (.object entries) = .object entries := by
  induction entries with
  | nil => rfl
  | cons entry rest ih =>
    obtain ⟨key, value⟩ := entry
    obtain ⟨⟨outside, kept⟩, others⟩ := List.forall_mem_cons.mp plain
    have later := ih others
    simp only [shown, Value.object.injEq] at later
    simp only [shown, shown.shownEntries, outside, later, Bool.false_eq_true, if_false] at kept ⊢
    rw [kept]

theorem shown_list {items : List Value} (kept : ∀ item ∈ items, shown item = item) :
    shown (.list items) = .list items := by
  induction items with
  | nil => rfl
  | cons item rest ih =>
    obtain ⟨here, others⟩ := List.forall_mem_cons.mp kept
    have later := ih others
    simp only [shown, Value.list.injEq] at later
    rw [shown, shown.shownItems, here, later]

/-- Stored surveys are shown as they are. -/
theorem shown_metaEntries {form : Form} (filled : form.Filled) :
    shown (.object form.metaEntries) = .object form.metaEntries := by
  have text {value : Value} (filled : Survey.IsFilledText value) : shown value = value := by
    obtain ⟨text, rfl, -⟩ := filled
    rfl
  have states : shown (.list ((form.past ++ [form.current]).map Survey.Milestone.toValue)) =
      .list ((form.past ++ [form.current]).map Survey.Milestone.toValue) := by
    refine shown_list fun item member => ?_
    obtain ⟨milestone, -, rfl⟩ := List.mem_map.mp member
    rfl
  apply shown_object
  simp only [Form.metaEntries, List.forall_mem_cons, List.not_mem_nil, false_implies, implies_true,
    and_true]
  exact ⟨⟨by decide, rfl⟩, ⟨by decide, text filled.title⟩, ⟨by decide, text filled.remark⟩,
    ⟨by decide, text filled.questionType⟩, ⟨by decide, rfl⟩, ⟨by decide, rfl⟩, ⟨by decide, rfl⟩,
    ⟨by decide, states⟩, ⟨by decide, rfl⟩, ⟨by decide, rfl⟩⟩

/-- How a page of surveys is answered: as it is, if all that is on it can be shown. -/
def pageResponse (page : Page) : Response :=
  if isShowable (.list page.documents) then ⟨200, .value (envelopeOf (pageAnswered page)), []⟩
  else .broken

/-- A page of stored surveys is shown as it is, if it can be shown. -/
theorem success_pageAnswered {total : Nat} {documents : List Value}
    (stored : ∀ document ∈ documents, ∃ form : Form, form.Filled ∧
      .object form.metaEntries = document) :
    success (pageAnswered ⟨total, documents⟩) = pageResponse ⟨total, documents⟩ := by
  have kept : shown (pageAnswered ⟨total, documents⟩) = pageAnswered ⟨total, documents⟩ := by
    apply shown_object
    simp only [List.forall_mem_cons, List.not_mem_nil, false_implies, implies_true, and_true]
    refine ⟨⟨by decide, rfl⟩, by decide, shown_list fun document member => ?_⟩
    obtain ⟨form, filled, rfl⟩ := stored document member
    exact shown_metaEntries filled
  have showable : isShowable (pageAnswered ⟨total, documents⟩) = isShowable (.list documents) := by
    simp only [pageAnswered, isShowable, isShowable.entriesShowable, Text.isWhole_whole,
      Bool.true_and, Bool.and_true]
  rw [success_eq, kept, showable, pageResponse]

/-- A caller's lists by a filter and an order are paged: for every size there are pages that
partition all surveys that are asked for, every request for one of them is answered by it and by the
number of all, if all that is on it can be shown, and nothing changes. -/
def PagesList (setup : Setup) (desk : Desk) (caller : Caller) (filter order : Option String) :
    Prop :=
  ∃ predicate sort all, predicateOf filter = .ok predicate ∧ sortOf order = .ok sort ∧
    FindsAll (desk.store.find metaCollection predicate (orderOr sort) 1 0 (some (listScope caller)))
      ((documentsIn desk metaCollection).filter (belongs predicate caller)) all ∧
    ∀ size, ∃ page : Int → List Value, Partitions page (entriesPerPage size) all ∧
      ∀ number request, AsksForList setup desk.clock caller filter order number size request →
        ∃ headers, (serve setup request).run desk =
          ({ pageResponse ⟨all.length, page number⟩ with headers }, desk)

/-- Surveys that are found are filled. -/
theorem filled_of_finds {predicate : Value} {found : Except Fault Page} {all : List Value}
    (shows : Shows desk ledger) (filled : ledger.Filled)
    (finds : FindsAll found
      ((documentsIn desk metaCollection).filter (belongs predicate caller)) all) :
    ∀ document ∈ all, ∃ form : Form, form.Filled ∧ .object form.metaEntries = document := by
  intro document member
  have inside := List.mem_of_mem_filter (finds.every.subset member)
  rw [Survey.documentsIn_metas shows] at inside
  obtain ⟨form, listed, same⟩ := List.mem_map.mp inside
  exact ⟨form, filled form listed, same⟩

/-- Surveys on a page that is found are filled. -/
theorem filled_of_page {predicate : Value} {sort : SortSpec} {number size : Int} {page : Page}
    (shows : Shows desk ledger) (sound : ledger.Sound) (filled : ledger.Filled)
    (found : desk.store.find metaCollection predicate sort number size (some (listScope caller)) =
      .ok page) :
    ∀ document ∈ page.documents, ∃ form : Form, form.Filled ∧
      .object form.metaEntries = document := by
  rw [Store.find_eq_slice] at found
  cases unpaged : desk.store.find metaCollection predicate sort 1 0 (some (listScope caller)) with
  | error fault =>
    rw [unpaged] at found
    cases found
  | ok all =>
    rw [unpaged] at found
    cases found
    have finds := Survey.findsAll_list shows sound unpaged
    intro document member
    apply filled_of_finds shows filled finds
    exact (Store.pageItems_sublist all.documents number size).subset member

/-- A filter and an order that are answered once are answered page by page. -/
theorem pagesList_of_answered {filter order : Option String} {number size : Int}
    (shows : Shows desk ledger) (sound : ledger.Sound) (filled : ledger.Filled)
    (asks : AsksForList setup desk.clock caller filter order number size request)
    (answered : ¬ ((serve setup request).run desk).1.Fails) :
    PagesList setup desk caller filter order := by
  obtain ⟨headers, run⟩ := run_list asks
  rw [run] at answered
  obtain ⟨data, listed, -⟩ := data_of_not_fails answered
  obtain ⟨predicate, predicated, listed⟩ := bind_eq_ok.mp listed
  obtain ⟨sort, sorted, listed⟩ := bind_eq_ok.mp listed
  rw [Store.find_eq_slice] at listed
  cases unpaged : desk.store.find metaCollection predicate (orderOr sort) 1 0
      (some (listScope caller)) with
  | error fault =>
    rw [unpaged] at listed
    cases listed
  | ok all =>
    have finds := Survey.findsAll_list shows sound unpaged
    have stored := filled_of_finds shows filled finds
    have total := finds.total_eq unpaged
    refine ⟨predicate, sort, all.documents, predicated, sorted, unpaged ▸ finds, fun size =>
      ⟨_, Store.partitions_pageItems all.documents (entriesPerPage_pos size), ?_⟩⟩
    intro number request asks
    obtain ⟨headers, run⟩ := run_list asks
    have listed : listing desk caller filter order number size = .ok (pageAnswered
        ⟨all.documents.length,
          Store.pageItems all.documents number (entriesPerPage size : Nat)⟩) := by
      rw [listing, predicated, ok_bind, sorted, ok_bind, Store.find_eq_slice, unpaged]
      simp only [Except.map, Except.mapError, pageItems_within, total]
    have within := fun document member => stored document
      ((Store.pageItems_sublist all.documents number (entriesPerPage size : Nat)).subset member)
    refine ⟨headers, ?_⟩
    rw [run, listed, Except.map, responseOf, success_pageAnswered within]

/-! ## Pages of responses -/

theorem run_data {survey : String} {hide : Bool} {number size : Int} (shows : Shows desk ledger)
    (asks : AsksForData setup desk.clock caller survey hide number size request) :
    ∃ headers, ∃ sheet : Except Fault Survey.Sheet,
      sheet.map Reply.sheet = ledger.sheet (.str survey) caller hide
        (PageRequest.within number size).number (PageRequest.within number size).size ∧
      (serve setup request).run desk = ({ responseOf
        (((sheet.mapError Failure.ofFault).map (Survey.Sheet.toValue Json.keyText)).map success)
          with headers }, desk) := by
  obtain ⟨body, claims, admitted, named⟩ := asks.admitted
  let page := PageRequest.within number size
  have shown := Survey.outcome_data shows (.str survey) caller hide page.number page.size
  rw [Op.perform, Work.outcome_map] at shown
  generalize worked : (Survey.data (.str survey) caller hide page.number page.size).outcome desk =
    outcome at shown
  obtain ⟨sheet, after⟩ := outcome
  obtain ⟨same, rfl⟩ := Prod.mk.inj shown
  have read : DataRequest.ofRequest request = .ok ⟨survey, hide, page⟩ := by
    rw [DataRequest.ofRequest, PageRequest.ofRequest, asks.survey, ok_bind, asks.hide, ok_bind,
      asks.number, ok_bind, asks.size]
    rfl
  have handled : (Operation.data.answer claims body request).outcome after =
      ((sheet.mapError Failure.ofFault).map (Survey.Sheet.toValue Json.keyText), after) := by
    rw [Operation.answer, answerData, outcome_input read, outcome_caller named, outcome_bind,
      outcome_ofWork, worked]
    cases sheet <;> rfl
  obtain ⟨headers, run⟩ := serve_admitted asks.path asks.method admitted handled
  exact ⟨headers, sheet, same, run⟩

/-- The tables of responses to a survey are paged: for every size there are pages that partition all
responses to the survey, and every request for one of them that is answered shows the number of all
and a row for each response on it, under the same columns, and nothing changes. -/
def PagesData (setup : Setup) (desk : Desk) (caller : Caller) (survey : String) (hide : Bool) :
    Prop :=
  ∃ columns secret all,
    FindsAll (desk.store.find responseCollection (having "pageId" (.str survey)) newestFirst 1 0
        none)
      ((documentsIn desk responseCollection).filter (isResponseTo survey)) all ∧
    ∀ size, ∃ page : Int → List Value, Partitions page (entriesPerPage size) all ∧
      ∀ number request, AsksForData setup desk.clock caller survey hide number size request →
        ¬ ((serve setup request).run desk).1.Fails →
        ∃ headers rows, (page number).mapM (Survey.rowOf hide secret columns) = .ok rows ∧
          (serve setup request).run desk = (⟨200, .value (envelopeOf (shown
            (Survey.Sheet.toValue Json.keyText ⟨all.length, columns, rows⟩))), headers⟩, desk)

/-- Tables that are shown once are shown page by page. -/
theorem pagesData_of_answered {survey : String} {hide : Bool} {number size : Int}
    (shows : Shows desk ledger) (sound : ledger.Sound) (kempt : Kempt ledger)
    (asks : AsksForData setup desk.clock caller survey hide number size request)
    (answered : ¬ ((serve setup request).run desk).1.Fails) :
    PagesData setup desk caller survey hide := by
  obtain ⟨headers, sheet, same, run⟩ := run_data shows asks
  rw [run] at answered
  obtain ⟨data, made, -⟩ := data_of_not_fails answered
  cases sheet with
  | error fault => cases made
  | ok sheet =>
    obtain ⟨columns, secret, all, paged, pages⟩ := Ledger.sheet_pages sound same.symm
    have unpaged := (Survey.find_responses shows _ newestFirst 1 0).trans paged
    have finds := Survey.findsAll_responses shows kempt.distinct unpaged
    have total := finds.total_eq unpaged
    refine ⟨columns, secret, all.documents, finds, fun size =>
      ⟨_, Store.partitions_pageItems all.documents (entriesPerPage_pos size), ?_⟩⟩
    intro number request asks answered
    obtain ⟨headers, sheet, same, run⟩ := run_data shows asks
    rw [run] at answered ⊢
    obtain ⟨data, made, response⟩ := data_of_not_fails answered
    rw [pages, pageItems_within, total] at same
    cases sheet with
    | error fault => cases made
    | ok sheet =>
      obtain ⟨rows, rowed, named⟩ := bind_eq_ok.mp same.symm
      cases made
      cases named
      exact ⟨headers, rows, rowed, by rw [response]⟩

/-- Pages partition what requests ask for, at every desk that requests lead to. A list that is
answered once, if only by an empty page, is answered by pages of all surveys that it asks for, each
with the number of all; every survey is on one of the pages that are filled and on no other, the
pages after those are empty, and a number below one is that of the first page. A page that cannot be
shown, because a text on it is torn, is not answered. The same holds of the responses that a table
is made from, page by page, whenever the table is shown. -/
theorem pages_partition_answers (frequented : Frequented setup desk) :
    (∀ caller filter order number size request,
      AsksForList setup desk.clock caller filter order number size request →
      ¬ ((serve setup request).run desk).1.Fails → PagesList setup desk caller filter order) ∧
    ∀ caller survey hide number size request,
      AsksForData setup desk.clock caller survey hide number size request →
      ¬ ((serve setup request).run desk).1.Fails → PagesData setup desk caller survey hide := by
  obtain ⟨ledger, shows, sound, kempt⟩ := frequented.shows
  constructor
  · intro _ _ _ _ _ _ asks answered
    exact pagesList_of_answered shows sound kempt.filled asks answered
  · intro _ _ _ _ _ _ asks answered
    exact pagesData_of_answered shows sound kempt asks answered

/-! ## Two pages -/

/-- Ida asks for something with a query. -/
def idasQuery (path : String) (query : List Field) : Request :=
  { idasAddition with method := "GET", path, query, body := [] }

theorem bearer_idasQuery (path : String) (query : List Field) :
    bearerClaims unshared.secrets (idasQuery path query) 1000 = .ok idasClaims := by
  let addition : Entries :=
    [("title", .str "t"), ("remark", .str "r"), ("questionType", .str "normal")]
  have admitted : Operation.add.admitted unshared.secrets idasAddition 1000 =
      .ok (.value (.object addition), idasClaims) := admitted_idasRequest rfl rfl rfl
  obtain ⟨_, -, known⟩ := bind_eq_ok.mp admitted
  obtain ⟨claims, known, same⟩ := bind_eq_ok.mp known
  cases same
  have brought : (idasQuery path query).header? "authorization" =
      idasAddition.header? "authorization" := rfl
  have alike : bearerClaims unshared.secrets (idasQuery path query) 1000 =
      bearerClaims unshared.secrets idasAddition 1000 := by
    rw [bearerClaims, bearerClaims, brought]
  rw [alike, known]

theorem asksFor_idasQuery (wanted : Operation) (reads : wanted.readsBody = false)
    (query : List Field) : AsksFor wanted unshared 1000 ida (idasQuery wanted.path query) where
  path := by cases wanted <;> rfl
  method := by cases wanted <;> first | rfl | cases reads
  admitted := by
    refine ⟨.absent, idasClaims, ?_, rfl⟩
    rw [Operation.admitted, reads]
    simp only [Bool.false_eq_true, if_false, ok_bind, bearer_idasQuery]
    rfl

/-- Ida asks for a page of her surveys of one survey each. -/
private def idasList (number : String) : Request :=
  idasQuery Operation.list.path [("curPage", number), ("pageSize", "1")]

/-- Ida asks for a page of the responses to her survey of one response each. -/
private def idasTable (number : String) : Request :=
  idasQuery Operation.data.path [("surveyId", "id1"), ("page", number), ("pageSize", "1")]

private theorem asks_idasList {number : String} {read : Int}
    (whole : wholeParameter (idasList number) "curPage" 1 = .ok read) :
    AsksForList unshared 1000 ida none none read 1 (idasList number) :=
  ⟨asksFor_idasQuery .list rfl _, whole, rfl, rfl, rfl⟩

private theorem asks_idasTable {number : String} {read : Int}
    (whole : wholeParameter (idasTable number) "page" 1 = .ok read) :
    AsksForData unshared 1000 ida "id1" true read 1 (idasTable number) :=
  ⟨asksFor_idasQuery .data rfl _, rfl, rfl, whole, rfl⟩

/-- The desk at which Ida's survey has been responded to. -/
private def answeredDesk : Desk := (Op.addResponse (.str "id1") (.object [])).after idasFirstDesk

private def answeredLedger : Ledger :=
  ⟨[idasFirstForm], [], [⟨"id2", .str "id1", .object [], 1000000⟩], [], .still 1000, 2⟩

private theorem shows_answeredDesk : Shows answeredDesk answeredLedger := by
  have shows := Survey.shows_after shows_idasFirstDesk sound_idasFirstLedger
    (.addResponse (.str "id1") (.object []))
  have same : (idasFirstLedger.perform (.addResponse (.str "id1") (.object []))).2 =
      answeredLedger := by with_unfolding_all rfl
  rw [← same]
  exact shows

private theorem list_shown : ¬ ((serve unshared (idasList "1")).run answeredDesk).1.Fails := by
  have asks : AsksForList unshared answeredDesk.clock ida none none 1 1 (idasList "1") :=
    shows_answeredDesk.clock ▸ asks_idasList rfl
  obtain ⟨headers, run⟩ := run_list asks
  have listed : listing answeredDesk ida none none 1 1 =
      .ok (pageAnswered ⟨1, [.object idasFirstForm.metaEntries]⟩) := by
    rw [listing]
    simp only [predicateOf, sortOf, ok_bind, Survey.find_metas shows_answeredDesk]
    with_unfolding_all rfl
  rw [run, listed]
  exact not_fails_success rfl headers

private theorem table_shown : ¬ ((serve unshared (idasTable "1")).run answeredDesk).1.Fails := by
  have asks : AsksForData unshared answeredDesk.clock ida "id1" true 1 1 (idasTable "1") :=
    shows_answeredDesk.clock ▸ asks_idasTable rfl
  obtain ⟨headers, sheet, same, run⟩ := run_data shows_answeredDesk asks
  have shown : answeredLedger.sheet (.str "id1") ida true 1 1 = .ok (.sheet ⟨1, [],
      [[(.str "_id", .str "id2"), (.str "createDate", .int 1000000)]]⟩) := by
    with_unfolding_all rfl
  cases sheet with
  | error fault => cases same.trans shown
  | ok sheet =>
    obtain rfl : sheet = _ := Reply.sheet.inj (Except.ok.inj (same.trans shown))
    rw [run]
    exact not_fails_success rfl headers

/-- One survey fills one page, and one response does: on the second pages nothing is shown, but what
is on the first is counted. -/
theorem pages_partition_answers_secondPages :
    Frequented unshared answeredDesk ∧
    AsksForList unshared answeredDesk.clock ida none none 1 1 (idasList "1") ∧
    ¬ ((serve unshared (idasList "1")).run answeredDesk).1.Fails ∧
    AsksForData unshared answeredDesk.clock ida "id1" true 1 1 (idasTable "1") ∧
    ¬ ((serve unshared (idasTable "1")).run answeredDesk).1.Fails ∧
    (∃ headers, (serve unshared (idasList "2")).run answeredDesk =
      (⟨200, .value (envelopeOf (pageAnswered ⟨1, []⟩)), headers⟩, answeredDesk)) ∧
    PagesData unshared answeredDesk ida "id1" true := by
  have frequented : Frequented unshared answeredDesk :=
    visited_idasFirstDesk.frequented.responded (.str "id1") (.object [])
  have list : AsksForList unshared answeredDesk.clock ida none none 1 1 (idasList "1") :=
    shows_answeredDesk.clock ▸ asks_idasList rfl
  have table : AsksForData unshared answeredDesk.clock ida "id1" true 1 1 (idasTable "1") :=
    shows_answeredDesk.clock ▸ asks_idasTable rfl
  obtain ⟨lists, tables⟩ := pages_partition_answers frequented
  obtain ⟨predicate, sort, all, predicated, -, finds, paged⟩ := lists _ _ _ _ _ _ list list_shown
  have one : all.length = 1 := by
    cases predicated
    rw [finds.every.length_eq, Survey.documentsIn_metas shows_answeredDesk]
    decide +kernel
  obtain ⟨page, partitions, answers⟩ := paged 1
  have empty : page 2 = [] := partitions.later 2 (by rw [one]; decide)
  obtain ⟨headers, run⟩ := answers 2 (idasList "2")
    (shows_answeredDesk.clock ▸ asks_idasList rfl)
  rw [empty, one] at run
  exact ⟨frequented, list, list_shown, table, table_shown, ⟨headers, run⟩,
    tables _ _ _ _ _ _ table table_shown⟩

/-! ## A page that cannot be shown -/

/-- A survey of a kind that is half a surrogate pair. -/
private def tornText : String :=
  "\x7b\"title\":\"t\",\"remark\":\"r\",\"questionType\":\"\\ud800\"\x7d"

/-- Ida creates that survey. -/
private def idasTornCreation : Request := idas Operation.create.path tornText

/-- The desk at which Ida has created that survey. -/
private def tornDesk : Desk := serveAll unshared [idasTornCreation] (Desk.opened 1000)

/-- The kind of that survey. -/
private def tornKind : Text := .torn "" ⟨0, by decide⟩ ""

private def tornForm : Form := .fresh "id1" (.str "t") (.str "r") (.str tornKind) ida
  (some (Survey.defaultCode (.str "t") (.str tornKind))) 1000000

private theorem shows_tornDesk : Shows tornDesk ⟨[tornForm], [], [], [], .still 1000, 1⟩ := by
  let creation : Entries :=
    [("title", .str "t"), ("remark", .str "r"), ("questionType", .str tornKind)]
  have asked : CreateRequest.ofBody (.value (.object creation)) = .ok ⟨"r", "t", .anew tornKind⟩ :=
    rfl
  obtain ⟨after, added, shows⟩ :=
    outcome_anew (Survey.shows_opened 1000) (Ledger.sound_opened 1000) asked
      (show Caller.ofClaims (.object idasClaims) = .ok ida from rfl)
  have written : tornText.toList = Json.write .compact (.object creation) := by decide
  have read : Json.readOctets (Utf8.encode tornText.toList) = .ok (.object creation) := by
    rw [written, Json.readOctets_object]
    rfl
  have admitted : Operation.create.admitted unshared.secrets idasTornCreation
      (Desk.opened 1000).clock = .ok (.value (.object creation), idasClaims) :=
    admitted_idasRequest rfl rfl read
  obtain ⟨_, run⟩ := serve_admitted rfl rfl admitted added
  have desk : tornDesk = after := by rw [tornDesk, serveAll, run, serveAll]
  rw [desk]
  exact shows

/-- The survey that Ida has created is counted on every page of her list, but the page that it is on
is not answered. -/
theorem torn_survey_breaks_its_page :
    Visited unshared tornDesk ∧
    AsksForList unshared tornDesk.clock ida none none 1 1 (idasList "1") ∧
    AsksForList unshared tornDesk.clock ida none none 2 1 (idasList "2") ∧
    ((serve unshared (idasList "1")).run tornDesk).1.status = 500 ∧
    ∃ headers, (serve unshared (idasList "2")).run tornDesk =
      (⟨200, .value (envelopeOf (pageAnswered ⟨1, []⟩)), headers⟩, tornDesk) := by
  have visited : Visited unshared tornDesk := Visited.servedAll (.opened 1000) [idasTornCreation]
  have first : AsksForList unshared tornDesk.clock ida none none 1 1 (idasList "1") :=
    shows_tornDesk.clock ▸ asks_idasList rfl
  have second : AsksForList unshared tornDesk.clock ida none none 2 1 (idasList "2") :=
    shows_tornDesk.clock ▸ asks_idasList rfl
  refine ⟨visited, first, second, ?_, ?_⟩
  · obtain ⟨headers, run⟩ := run_list first
    have listed : listing tornDesk ida none none 1 1 =
        .ok (pageAnswered ⟨1, [.object tornForm.metaEntries]⟩) := by
      rw [listing]
      simp only [predicateOf, sortOf, ok_bind, Survey.find_metas shows_tornDesk]
      with_unfolding_all rfl
    rw [run, listed]
    rfl
  · obtain ⟨headers, run⟩ := run_list second
    have listed : listing tornDesk ida none none 2 1 = .ok (pageAnswered ⟨1, []⟩) := by
      rw [listing]
      simp only [predicateOf, sortOf, ok_bind, Survey.find_metas shows_tornDesk]
      with_unfolding_all rfl
    rw [run, listed]
    exact ⟨headers, rfl⟩

end SurveyDesk.Http
