import SurveyDesk.Proofs.Filter.Transport
import SurveyDesk.Proofs.Http.Pages

/-! What is answered to a list that is asked for in an order. An order that is a sort list is
answered by a page, and one whose form is wrong by the report that it is. The depth of an order is
not looked at, as that of a filter is: a text that is nested too deeply breaks the service, and no
other text does. A page with a torn text cannot be shown, in whatever order it is asked for. -/
namespace SurveyDesk.Http

open SurveyDesk.Filter (IsTooDeep ReadAsSortList Rejection SortRequest)
open Query (Compiler)
open Survey (Ledger Shows orderOr pageAnswered listScope metaCollection)

variable {setup : Setup} {desk : Desk} {ledger : Ledger} {request : Request} {caller : Caller}
  {order : Option String} {number size : Int} {requests : List SortRequest}
  {rejection : Rejection} {raw : String}

/-- The sort requests of an order; without an order there are none. -/
def requestsIn : Option String → Except Rejection (List SortRequest)
  | none => .ok []
  | some raw => Filter.readSort (.str raw)

/-- Whether a page holds a caller's surveys by sort requests. -/
def IsPageBy (desk : Desk) (caller : Caller) (requests : List SortRequest) (number size : Int)
    (page : Page) : Prop :=
  ∃ sort, Compiler.standard.compileSort requests = .ok sort ∧
    desk.store.find metaCollection (.object []) (orderOr sort)
      (PageRequest.within number size).number (PageRequest.within number size).size
      (some (listScope caller)) = .ok page

/-- How a list without a filter is answered in an order: by a page if the order is read, by the
report that its form is wrong, or by a breakdown, and that exactly if the order is nested too
deeply or the page cannot be shown. -/
structure AnsweredInOrder (setup : Setup) (desk : Desk) (caller : Caller) (order : Option String)
    (number size : Int) (request : Request) : Prop where
  shown : ∀ requests, requestsIn order = .ok requests → ∃ page headers,
    IsPageBy desk caller requests number size page ∧
    (serve setup request).run desk = ({ pageResponse page with headers }, desk)
  refused : ∀ rejection, requestsIn order = .error rejection → rejection.blamesForm = true →
    ∃ headers, (serve setup request).run desk =
      ({ Failure.envelope .badParameters "order format is not valid" with headers }, desk)
  broken : ∀ raw, order = some raw → IsTooDeep (.str raw) → ∃ headers,
    (serve setup request).run desk = ({ Response.broken with headers }, desk)
  breaks : ((serve setup request).run desk).1.status = 500 ↔
    (∃ raw, order = some raw ∧ IsTooDeep (.str raw)) ∨
    ∃ requests page, requestsIn order = .ok requests ∧
      IsPageBy desk caller requests number size page ∧ isShowable (.list page.documents) = false

/-! ## The order -/

/-- Sort requests that are read are compiled, and are the order. -/
theorem sortOf_read (read : requestsIn order = .ok requests) :
    ∃ sort, Compiler.standard.compileSort requests = .ok sort ∧ sortOf order = .ok sort := by
  cases order with
  | none =>
    cases read
    exact ⟨[], rfl, rfl⟩
  | some raw =>
    have read : Filter.readSort (.str raw) = .ok requests := read
    obtain ⟨value, -, listed⟩ := Filter.readSort_eq_ok.mp read
    obtain ⟨sort, compiled⟩ := Query.compileSort_answers Compiler.standard listed.texts
    refine ⟨sort, compiled, ?_⟩
    rw [sortOf]
    simp only [read, compiled]
    rfl

theorem sortOf_refused (read : requestsIn order = .error rejection)
    (form : rejection.blamesForm = true) :
    sortOf order = .error (.refused .badParameters "order format is not valid") := by
  cases order with
  | none => cases read
  | some raw =>
    have read : Filter.readSort (.str raw) = .error rejection := read
    rw [sortOf]
    cases rejection with
    | notJson | misshapen => simp only [read]
    | tooDeep | unreadable => cases form

theorem sortOf_tooDeep (deep : IsTooDeep (.str raw)) : sortOf (some raw) = .error .broken := by
  have read := (Filter.readAsSortList (.str raw)).deep.mpr deep
  rw [sortOf]
  simp only [read]

/-! ## The answer -/

/-- In an order that is read every page is found. -/
theorem listing_read (shows : Shows desk ledger) (sound : ledger.Sound) (filled : ledger.Filled)
    (caller : Caller) (number size : Int) (read : requestsIn order = .ok requests) :
    ∃ page, IsPageBy desk caller requests number size page ∧
      listing desk caller none order number size = .ok (pageAnswered page) ∧
      success (pageAnswered page) = pageResponse page := by
  obtain ⟨sort, compiled, sorted⟩ := sortOf_read read
  have allowed := Query.compileSort_fields compiled
  have paged := Survey.find_firstFault shows (PageRequest.within number size).number
    (PageRequest.within number size).size (.object []) allowed caller
  rw [Survey.firstFault_unfiltered] at paged
  obtain ⟨page, found⟩ := paged
  refine ⟨page, ⟨sort, compiled, found⟩, ?_, ?_⟩
  · rw [listing, predicateOf, ok_bind, sorted, ok_bind, found]
    rfl
  · exact success_pageAnswered (filled_of_page shows sound filled found)

theorem listing_unsorted {failure : Failure} (sorted : sortOf order = .error failure) :
    listing desk caller none order number size = .error failure := by
  rw [listing, predicateOf, ok_bind, sorted, error_bind]

theorem IsPageBy.unique {first second : Page}
    (one : IsPageBy desk caller requests number size first)
    (other : IsPageBy desk caller requests number size second) : first = second := by
  obtain ⟨sort, compiled, found⟩ := one
  obtain ⟨same, again, likewise⟩ := other
  cases compiled.symm.trans again
  exact Except.ok.inj (found.symm.trans likewise)

theorem status_pageResponse {page : Page} :
    (pageResponse page).status = 500 ↔ isShowable (.list page.documents) = false := by
  unfold pageResponse
  split
  · rename_i showable
    exact iff_of_false (show (200 : Nat) ≠ 500 by decide) (by simp [showable])
  · rename_i torn
    exact iff_of_true rfl (Bool.eq_false_iff.mpr torn)

theorem answeredInOrder (shows : Shows desk ledger) (sound : ledger.Sound)
    (filled : ledger.Filled)
    (asks : AsksForList setup desk.clock caller none order number size request) :
    AnsweredInOrder setup desk caller order number size request := by
  obtain ⟨headers, run⟩ := run_list asks
  have shown {requests : List SortRequest} (read : requestsIn order = .ok requests) :
      ∃ page, IsPageBy desk caller requests number size page ∧
        (serve setup request).run desk = ({ pageResponse page with headers }, desk) := by
    obtain ⟨page, paged, listed, answered⟩ :=
      listing_read shows sound filled caller number size read
    refine ⟨page, paged, ?_⟩
    rw [run, listed, Except.map, responseOf, answered]
  have failed {failure : Failure} (sorted : sortOf order = .error failure) :
      (serve setup request).run desk = ({ failure.response with headers }, desk) := by
    rw [run, listing_unsorted sorted]
    rfl
  constructor
  case shown =>
    intro requests read
    obtain ⟨page, paged, answered⟩ := shown read
    exact ⟨page, headers, paged, answered⟩
  case refused =>
    intro rejection read form
    exact ⟨headers, failed (sortOf_refused read form)⟩
  case broken =>
    rintro raw rfl deep
    exact ⟨headers, failed (sortOf_tooDeep deep)⟩
  case breaks =>
    constructor
    · intro status
      cases read : requestsIn order with
      | ok requests =>
        obtain ⟨page, paged, answered⟩ := shown read
        rw [answered] at status
        exact .inr ⟨requests, page, rfl, paged, status_pageResponse.mp status⟩
      | error rejection =>
        cases order with
        | none => cases read
        | some raw =>
          refine .inl ⟨raw, rfl, ?_⟩
          by_contra shallow
          have form := (Filter.readAsSortList (.str raw)).refused rejection read shallow
          rw [failed (sortOf_refused read form)] at status
          cases status
    · rintro (⟨raw, rfl, deep⟩ | ⟨requests, page, read, paged, torn⟩)
      · rw [failed (sortOf_tooDeep deep)]
        rfl
      · obtain ⟨other, found, answered⟩ := shown read
        rw [answered, found.unique paged]
        exact status_pageResponse.mpr torn

/-- Orders are read by their grammar and fail as declared, unless they are nested too deeply. Every
payload is read as the sort list that it is decoded to, or is refused for its form, or is too deep;
and at every desk that requests and responses lead to, a list without a filter is answered by a page
or by the report that the form of its order is wrong, unless its order is too deep or the page
cannot be shown. Nothing else breaks the service. -/
theorem lists_are_answered_in_order (frequented : Frequented setup desk) :
    (∀ payload, ReadAsSortList payload) ∧
    ∀ caller order number size request,
      AsksForList setup desk.clock caller none order number size request →
      AnsweredInOrder setup desk caller order number size request := by
  obtain ⟨ledger, shows, sound, kempt⟩ := frequented.shows
  constructor
  · exact Filter.readAsSortList
  · intro caller order number size request asks
    exact answeredInOrder shows sound kempt.filled asks

/-! ## Lists inside one another -/

/-- A list that holds nothing but lists inside one another. -/
def nestedList : Nat → Value
  | 0 => .list []
  | depth + 1 => .list [nestedList depth]

/-- The text of lists inside one another. -/
def nestedText (depth : Nat) : String :=
  String.ofList (List.replicate (depth + 1) '[' ++ List.replicate (depth + 1) ']')

theorem write_nestedList (depth : Nat) :
    Json.write .spaced (nestedList depth) = (nestedText depth).toList := by
  rw [nestedText, String.toList_ofList]
  induction depth with
  | zero => rfl
  | succ depth ih =>
    have opening : List.replicate (depth + 2) '[' = '[' :: List.replicate (depth + 1) '[' :=
      List.replicate_succ
    have closing : List.replicate (depth + 2) ']' = List.replicate (depth + 1) ']' ++ [']'] :=
      List.replicate_succ'
    rw [nestedList, Json.write, Json.write.writtenItems, ih, opening, closing]
    simp only [List.cons_append, List.append_assoc]

private theorem nestedText_ne (depth : Nat) : nestedText depth ≠ "" := by
  intro same
  have empty := congrArg String.toList same
  rw [nestedText, String.toList_ofList, List.replicate_succ] at empty
  cases empty

theorem nesting_nestedList (depth : Nat) : Json.nesting (nestedList depth) = depth + 1 := by
  induction depth with
  | zero => rfl
  | succ depth ih =>
    simp only [nestedList, Json.nesting, Json.nesting.itemsNesting, ih]
    omega

theorem exact_nestedList (depth : Nat) : Json.IsExact (nestedList depth) := by
  induction depth with
  | zero => trivial
  | succ depth ih => exact ⟨ih, trivial⟩

/-- More lists inside one another than may be are too deep. -/
private theorem tooDeep_nestedText {depth : Nat} (deep : Json.nestingLimit ≤ depth) :
    IsTooDeep (.str (nestedText depth)) := by
  have sends : Filter.Sends (nestedText depth) (nestedList depth) := by
    rw [Filter.Sends, write_nestedList]
    apply Percent.Encodes.unchanged
    rw [nestedText, String.toList_ofList]
    simp [List.mem_replicate]
  rcases Filter.decode_sent (exact_nestedList depth) sends with
    ⟨fits, -⟩ | ⟨-, opened, source, failed⟩
  · rw [nesting_nestedList] at fits
    omega
  · exact .text failed

/-- Ida asks for her surveys in an order. -/
private def idasOrder (raw : String) : Request := idasQuery Operation.list.path [("order", raw)]

private theorem asks_idasOrder (filled : raw ≠ "") :
    AsksForList unshared idasFirstDesk.clock ida none (some raw) 1 10 (idasOrder raw) := by
  have asks : AsksFor .list unshared idasFirstDesk.clock ida (idasOrder raw) :=
    shows_idasFirstDesk.clock ▸ asksFor_idasQuery .list rfl _
  have given : (idasOrder raw).parameter? "order" = some raw := rfl
  refine ⟨asks, rfl, rfl, rfl, ?_⟩
  rw [textParameter, given]
  simp [filled]

/-- Ida's order of five thousand lists inside one another is not refused, but breaks the service. -/
theorem deep_order_breaks_list :
    Visited unshared idasFirstDesk ∧
    AsksForList unshared idasFirstDesk.clock ida none (some (nestedText 4999)) 1 10
      (idasOrder (nestedText 4999)) ∧
    (∃ rejection, Filter.readSort (.str (nestedText 4999)) = .error rejection ∧
      rejection.blamesForm = false) ∧
    ((serve unshared (idasOrder (nestedText 4999))).run idasFirstDesk).1.status = 500 := by
  have deep : IsTooDeep (.str (nestedText 4999)) := by
    apply tooDeep_nestedText
    unfold Json.nestingLimit
    omega
  have asks := asks_idasOrder (nestedText_ne 4999)
  obtain ⟨ledger, shows, sound, kempt⟩ := visited_idasFirstDesk.frequented.shows
  have answered := answeredInOrder shows sound kempt.filled asks
  have failed := (Filter.readAsSortList _).deep.mpr deep
  exact ⟨visited_idasFirstDesk, asks, ⟨_, failed, rfl⟩, answered.breaks.mpr (.inl ⟨_, rfl, deep⟩)⟩

/-- Ida's surveys, the earliest first. -/
private def byDate : String := "[\x7b\"field\": \"createDate\", \"value\": 1\x7d]"

/-- An order without a field. -/
private def byNothing : String := "[\x7b\"value\": 1\x7d]"

/-- Ida's survey is shown in an order that is read, and an order without a field is refused. -/
theorem lists_are_answered_in_order_byDate :
    Frequented unshared idasFirstDesk ∧
    AsksForList unshared idasFirstDesk.clock ida none (some byDate) 1 10 (idasOrder byDate) ∧
    AsksForList unshared idasFirstDesk.clock ida none (some byNothing) 1 10
      (idasOrder byNothing) ∧
    (∃ headers, (serve unshared (idasOrder byDate)).run idasFirstDesk =
      (⟨200, .value (envelopeOf (pageAnswered ⟨1, [.object idasFirstForm.metaEntries]⟩)), headers⟩,
        idasFirstDesk)) ∧
    ∃ headers, (serve unshared (idasOrder byNothing)).run idasFirstDesk =
      ({ Failure.envelope .badParameters "order format is not valid" with headers },
        idasFirstDesk) := by
  have frequented := visited_idasFirstDesk.frequented
  have dated := asks_idasOrder (show byDate ≠ "" by decide)
  have undirected := asks_idasOrder (show byNothing ≠ "" by decide)
  obtain ⟨reads, answers⟩ := lists_are_answered_in_order frequented
  have read : requestsIn (some byDate) = .ok [⟨.str "createDate", .int 1⟩] := rfl
  obtain ⟨page, headers, paged, shown⟩ := (answers _ _ _ _ _ dated).shown _ read
  have hers : IsPageBy idasFirstDesk ida [⟨.str "createDate", .int 1⟩] 1 10
      ⟨1, [.object idasFirstForm.metaEntries]⟩ := by
    refine ⟨_, rfl, ?_⟩
    rw [Survey.find_metas shows_idasFirstDesk]
    with_unfolding_all rfl
  rw [paged.unique hers] at shown
  have unread : ∃ violation, requestsIn (some byNothing) = .error (.misshapen violation) :=
    ⟨_, rfl⟩
  obtain ⟨violation, unread⟩ := unread
  have refused := (answers _ _ _ _ _ undirected).refused _ unread rfl
  exact ⟨frequented, dated, undirected, ⟨headers, shown⟩, refused⟩

end SurveyDesk.Http
