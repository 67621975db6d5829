import SurveyDesk.Proofs.Store.Pagination
import SurveyDesk.Proofs.Survey.ListScope
import SurveyDesk.Proofs.Survey.Listing
import SurveyDesk.Proofs.Survey.Masking

/-! What surveys and responses are paged from. Without pages a list shows every stored survey that
belongs into it, and the table of responses is made from every stored response to its survey; none
is there twice, and the same ones are there whichever page is asked for. -/
namespace SurveyDesk.Survey

/-- Whether a stored response is to the survey with an id. -/
def isResponseTo (id : Text) (document : Value) : Bool := textAt? "pageId" document = some id

/-- Finding without pages shows exactly the documents that match, none of them twice. -/
structure FindsAll (found : Except Fault Page) (matching all : List Value) : Prop where
  answered : found = .ok ⟨all.length, all⟩
  every : all.Perm matching
  once : all.Nodup

variable {desk : Desk} {ledger : Ledger} {id : Text}

theorem FindsAll.total_eq {found : Except Fault Page} {matching : List Value} {page : Page}
    (finds : FindsAll found matching page.documents) (shown : found = .ok page) :
    page.total = page.documents.length :=
  congrArg Page.total (Except.ok.inj (shown.symm.trans finds.answered))

/-- Documents under different ids are different. -/
theorem nodup_of_ids {documents : List Value} {ids : List Text} (distinct : ids.Nodup)
    (named : documents.map (fun document => document.get? "_id") =
      ids.map fun id => some (Value.str id)) : documents.Nodup := by
  refine List.Nodup.of_map (fun document : Value => document.get? "_id") ?_
  rw [named]
  exact distinct.map fun first second same => Value.str.inj (Option.some.inj same)

/-! ## Surveys -/

theorem nodup_metas (shows : Shows desk ledger) (sound : ledger.Sound) :
    (documentsIn desk metaCollection).Nodup := by
  refine nodup_of_ids sound.distinct ?_
  rw [documentsIn_metas shows, List.map_map, List.map_map]
  rfl

/-- A list without pages shows every survey that belongs into it. -/
theorem findsAll_list (shows : Shows desk ledger) (sound : ledger.Sound) {predicate : Value}
    {sort : SortSpec} {page : Page}
    (answered : desk.store.find metaCollection predicate sort 1 0 (some (listScope caller)) =
      .ok page) :
    FindsAll (desk.store.find metaCollection predicate sort 1 0 (some (listScope caller)))
      ((documentsIn desk metaCollection).filter (belongs predicate caller)) page.documents := by
  obtain ⟨total, found, hit, perm⟩ :=
    Store.pageOf_unpaged ((find_metas shows predicate sort 1 0 caller).symm.trans answered)
  rw [found_eq_belongs hit shows] at perm
  exact ⟨by rw [answered, ← total], perm,
    perm.nodup_iff.mpr ((nodup_metas shows sound).filter _)⟩

/-! ## Responses -/

theorem find_responses (shows : Shows desk ledger) (predicate : Value) (sort : SortSpec)
    (number size : Int) :
    desk.store.find responseCollection predicate sort number size none =
      Store.pageOf predicate sort number size none (ledger.responses.map Response.document) := by
  rw [Store.find_eq_pageOf, shows.responses, Keyed.contents_byName]

theorem nodup_responses (shows : Shows desk ledger)
    (distinct : (ledger.responses.map Response.id).Nodup) :
    (documentsIn desk responseCollection).Nodup := by
  refine nodup_of_ids distinct ?_
  rw [documentsIn_responses shows, List.map_map, List.map_map]
  rfl

theorem isResponseTo_response (id : Text) (response : Response) :
    isResponseTo id (.object response.entries) = response.isTo [id] := by
  obtain ⟨own, survey, answers, date⟩ := response
  cases survey with
  | str text =>
    have said : textAt? "pageId" (.object (Response.entries ⟨own, .str text, answers, date⟩)) =
        some text := rfl
    simp [isResponseTo, said, Response.isTo]
  | _ => rfl

/-- The table of responses without pages is made from every response to the survey. -/
theorem findsAll_responses (shows : Shows desk ledger)
    (distinct : (ledger.responses.map Response.id).Nodup) {page : Page}
    (answered : desk.store.find responseCollection (having "pageId" (.str id)) newestFirst 1 0
      none = .ok page) :
    FindsAll (desk.store.find responseCollection (having "pageId" (.str id)) newestFirst 1 0 none)
      ((documentsIn desk responseCollection).filter (isResponseTo id)) page.documents := by
  obtain ⟨total, found, hit, perm⟩ :=
    Store.pageOf_unpaged ((find_responses shows _ newestFirst 1 0).symm.trans answered)
  have matching : found.map Document.shown =
      (documentsIn desk responseCollection).filter (isResponseTo id) := by
    rw [Store.hits_decided (Ledger.holds_pageId id)] at hit
    cases hit
    rw [documentsIn_responses shows, List.filter_map, List.map_map]
    refine congrArg₂ _ (funext Response.shown_document) ?_
    exact List.filter_congr fun response _ => (isResponseTo_response id response).symm
  rw [matching] at perm
  exact ⟨by rw [answered, ← total], perm,
    perm.nodup_iff.mpr ((nodup_responses shows distinct).filter _)⟩

/-- Once the responses to a survey are shown, every page shows a row for each of a stretch of the
same responses, under the same columns. -/
theorem Ledger.sheet_pages {reply : Reply} (sound : ledger.Sound)
    (answered : ledger.sheet (.str id) caller hide first length = .ok reply) :
    ∃ columns secret all,
      Store.pageOf (having "pageId" (.str id)) newestFirst 1 0 none
        (ledger.responses.map Response.document) = .ok all ∧
      ∀ number size, ledger.sheet (.str id) caller hide number size = (do
        let rows ← (Store.pageItems all.documents number size).mapM (rowOf hide secret columns)
        return .sheet ⟨all.total, columns, rows⟩) := by
  cases owned : ledger.own (.str id) caller with
  | error fault =>
    rw [sheet_of_not_own owned] at answered
    cases answered
  | ok form =>
    obtain rfl : id = form.id := Value.str.inj (Ledger.eq_id_of_own rfl owned)
    rw [sheet_of_own sound owned] at answered
    obtain ⟨columns, listed, answered⟩ := bind_eq_ok.mp answered
    obtain ⟨secret, hidden, answered⟩ := bind_eq_ok.mp answered
    obtain ⟨page, paged, -⟩ := bind_eq_ok.mp answered
    rw [Store.pageOf_eq_slice] at paged
    cases unpaged : Store.pageOf (having "pageId" (.str form.id)) newestFirst 1 0 none
        (ledger.responses.map Response.document) with
    | error fault =>
      rw [unpaged] at paged
      cases paged
    | ok all =>
      refine ⟨columns, secret, all, rfl, fun number size => ?_⟩
      rw [sheet_of_own sound owned, listed, ok_bind, hidden, ok_bind, Store.pageOf_eq_slice,
        unpaged]
      rfl

end SurveyDesk.Survey
