import Mathlib.Algebra.Order.Field.Rat
import SurveyDesk.Proofs.Filter.Shape
import SurveyDesk.Proofs.Query.KeyOrder
import SurveyDesk.Proofs.Store.Pagination
import SurveyDesk.Proofs.Store.Sorting
import SurveyDesk.Proofs.Survey.Listing

/-! What sort requests come to. A field is sorted by where it is first asked for, in the direction
that is asked for last; what is asked for in between, and fields that may not be sorted by, make no
difference. Surveys are listed in that order of priorities. -/
namespace SurveyDesk.Query
open SurveyDesk.Filter (SortRequest isText)

/-- A number that is one, whole or a fraction of a power of two. No truth value is one. -/
def IsOne : Value → Prop
  | .int number => number = 1
  | .float (.finite negative significand exponent) =>
    (if negative then -1 else 1 : ℚ) * significand * 2 ^ exponent = 1
  | _ => False

/-- The field of a sort request, if it may be sorted by. -/
def sortField? (fields : List Text) (request : SortRequest) : Option Text :=
  match request.field with
  | .str field => if field ∈ fields then some field else none
  | _ => none

/-- The entries that sort requests put into a specification, one after another. -/
def sortPairs (fields : List Text) (requests : List SortRequest) : List (Text × Value) :=
  requests.filterMap fun request =>
    (sortField? fields request).map (·, Compiler.direction request)

variable {compiler : Compiler} {requests : List SortRequest} {fields : List Text}

/-! ## Directions -/

/-- A double stands at the fraction that it is. -/
theorem place_finite (negative : Bool) (significand : Nat) (exponent : Int) :
    ∃ numerator : Int, ∃ denominator : Nat, 0 < denominator ∧
      (Binary64.finite negative significand exponent).place? =
        some (.at numerator denominator) ∧
      (numerator : ℚ) / denominator =
        (if negative then -1 else 1 : ℚ) * significand * 2 ^ exponent := by
  rcases le_or_gt 0 (-exponent) with low | high
  · obtain ⟨places, same⟩ := Int.eq_ofNat_of_zero_le low
    obtain rfl : exponent = -(places : Int) := by omega
    refine ⟨if negative then -(significand : Int) else significand, 2 ^ places,
      Nat.two_pow_pos places, ?_, ?_⟩
    · simp [Binary64.place?, Binary64.unscaled]
    · cases negative <;> simp [zpow_neg, div_eq_mul_inv]
  · obtain ⟨places, same⟩ := Int.eq_ofNat_of_zero_le (show 0 ≤ exponent by omega)
    obtain rfl : exponent = (places : Int) := same
    refine ⟨if negative then -((significand * 2 ^ places : Nat) : Int)
      else (significand * 2 ^ places : Nat), 1, Nat.one_pos, ?_, ?_⟩
    · have some : places ≠ 0 := by omega
      simp [Binary64.place?, Binary64.unscaled, some]
    · cases negative <;> simp

theorem order_one (numerator : Int) {denominator : Nat} (positive : 0 < denominator) :
    (Binary64.Place.at numerator denominator).order (.ofInt 1) = .eq ↔
      (numerator : ℚ) / denominator = 1 := by
  have apart : (denominator : ℚ) ≠ 0 := Nat.cast_ne_zero.mpr positive.ne'
  rw [Binary64.Place.ofInt, Binary64.Place.order, compare_eq_iff_eq, div_eq_one_iff_eq apart]
  constructor
  · intro same
    have same : numerator = denominator := by simpa using same
    rw [same, Int.cast_natCast]
  · intro same
    have same : numerator = denominator := by exact_mod_cast same
    simp [same]

theorem ascending_iff (request : SortRequest) : request.ascending ↔ IsOne request.direction := by
  obtain ⟨field, direction⟩ := request
  cases direction with
  | int number =>
    simp [SortRequest.ascending, IsOne, Value.equals, Value.alike, Value.place?,
      Binary64.Place.ofInt, Binary64.Place.order]
  | float number =>
    cases number with
    | finite negative significand exponent =>
      obtain ⟨numerator, denominator, positive, place, same⟩ :=
        place_finite negative significand exponent
      rw [IsOne, ← same, ← order_one numerator positive]
      simp [SortRequest.ascending, Value.equals, Value.alike, Value.place?, place]
    | infinite negative =>
      cases negative <;> simp [SortRequest.ascending, IsOne, Value.equals, Value.alike,
        Value.place?, Binary64.place?, Binary64.Place.ofInt, Binary64.Place.order]
    | nan => simp [SortRequest.ascending, IsOne, Value.equals]
  | _ => simp [SortRequest.ascending, IsOne]

theorem direction_ascending (one : IsOne request.direction) :
    Compiler.direction request = .int 1 := by
  rw [Compiler.direction, if_pos ((ascending_iff request).mpr one)]

theorem direction_descending (other : ¬ IsOne request.direction) :
    Compiler.direction request = .int (-1) := by
  rw [Compiler.direction, if_neg fun up => other ((ascending_iff request).mp up)]

/-! ## Specifications -/

theorem sortPairs_append (first second : List SortRequest) :
    sortPairs fields (first ++ second) = sortPairs fields first ++ sortPairs fields second :=
  List.filterMap_append

theorem keys_sortPairs (fields : List Text) (requests : List SortRequest) :
    Entries.keys (sortPairs fields requests) = requests.filterMap (sortField? fields) := by
  rw [Entries.keys, sortPairs, List.map_filterMap]
  refine List.filterMap_congr fun request _ => ?_
  cases sortField? fields request <;> rfl

theorem allowed?_text (text : isText request.field) :
    allowed? fields request.field = .ok (sortField? fields request) := by
  obtain ⟨field, direction⟩ := request
  cases field with
  | str name =>
    simp only [allowed?, sortField?, List.contains_iff_mem]
  | _ => cases text

/-- Sort requests whose fields are texts are compiled to what they put in, in order. -/
theorem compileSort_eq (compiler : Compiler) (texts : ∀ request ∈ requests, isText request.field) :
    compiler.compileSort requests =
      .ok (Entries.ofPairs (sortPairs compiler.sortFields requests)) := by
  unfold Compiler.compileSort Entries.ofPairs
  generalize ([] : Entries) = compiled
  induction requests generalizing compiled with
  | nil => rfl
  | cons request rest ih =>
    obtain ⟨first, others⟩ := List.forall_mem_cons.mp texts
    rw [List.foldlM_cons, allowed?_text first, ok_bind, sortPairs, List.filterMap_cons]
    cases sortField? compiler.sortFields request with
    | none => exact ih others compiled
    | some field => exact ih others (Entries.put compiled field _)

theorem keys_sorts (requests : List SortRequest) :
    (Entries.ofPairs (sortPairs fields requests)).keys =
      (requests.filterMap (sortField? fields)).eraseDups := by
  rw [Entries.ofPairs, Entries.keys_putAll, keys_sortPairs]
  exact foldl_addKey_eq _

theorem sortField?_text (listed : field ∈ fields) :
    sortField? fields ⟨.str field, direction⟩ = some field :=
  if_pos listed

theorem sortField?_some {request : SortRequest} (named : sortField? fields request = some field) :
    request.field = .str field ∧ field ∈ fields := by
  unfold sortField? at named
  split at named
  · rename_i name text
    split at named
    · cases named
      exact ⟨text, ‹_›⟩
    · cases named
  · cases named

/-- Requests for other fields say nothing about a field. -/
theorem lastOn_sortPairs_none (others : ∀ request ∈ requests, request.field ≠ .str field) :
    lastOn field (sortPairs fields requests) = none := by
  refine lastOn_eq_none.mpr fun entry member same => ?_
  obtain ⟨request, asked, named⟩ := List.mem_filterMap.mp member
  obtain ⟨name, found, rfl⟩ := Option.map_eq_some_iff.mp named
  exact others request asked (same ▸ (sortField?_some found).1)

/-- Under a field is the direction that is asked for last. -/
theorem get?_sorts (listed : field ∈ fields) (before : List SortRequest) (direction : Value)
    (others : ∀ request ∈ after, request.field ≠ .str field) :
    (Entries.ofPairs (sortPairs fields (before ++ ⟨.str field, direction⟩ :: after))).get? field =
      some (Compiler.direction ⟨.str field, direction⟩) := by
  rw [Entries.get?_ofPairs, sortPairs_append, lastOn_append, sortPairs, List.filterMap_cons,
    sortField?_text listed, Option.map_some, lastOn, ← sortPairs, lastOn_sortPairs_none others,
    if_pos rfl, Option.none_or, Option.some_or]

theorem mem_keys_sortPairs (listed : field ∈ fields)
    (asked : Value.str field ∈ requests.map SortRequest.field) :
    field ∈ Entries.keys (sortPairs fields requests) := by
  obtain ⟨⟨_, direction⟩, member, rfl⟩ := List.mem_map.mp asked
  rw [keys_sortPairs]
  exact List.mem_filterMap.mpr ⟨_, member, sortField?_text listed⟩

/-- An entry under a key that comes before and after it makes no difference. -/
theorem ofPairs_between {first second : List (Text × Value)}
    (earlier : key ∈ Entries.keys first) (later : key ∈ Entries.keys second) :
    Entries.ofPairs (first ++ (key, value) :: second) = Entries.ofPairs (first ++ second) := by
  refine Entries.ext_get? (Entries.nodup_ofPairs _) ?_ fun wanted => ?_
  -- the key has its place from before, and its value from after
  · have present : key ∈ (Entries.keys first).foldl Entries.addKey [] :=
      Entries.mem_addKeys.mpr (Or.inr earlier)
    rw [Entries.ofPairs, Entries.ofPairs, Entries.keys_putAll, Entries.keys_putAll,
      Entries.keys_append, Entries.keys_append, List.foldl_append, List.foldl_append,
      Entries.keys_cons, List.foldl_cons, Entries.keys_nil, Entries.addKey, if_pos present]
  · rw [Entries.get?_ofPairs, Entries.get?_ofPairs, lastOn_append, lastOn_append, lastOn]
    split
    · rename_i here
      subst here
      cases last : lastOn key second with
      | none =>
        obtain ⟨entry, member, same⟩ := List.mem_map.mp later
        exact absurd same (lastOn_eq_none.mp last entry member)
      | some found => rfl
    · rw [Option.or_none]

/-- A request for a field that is asked for before and after makes no difference. -/
theorem sorts_between {request : SortRequest} {before after : List SortRequest}
    (earlier : request.field ∈ before.map SortRequest.field)
    (later : request.field ∈ after.map SortRequest.field) :
    Entries.ofPairs (sortPairs fields (before ++ request :: after)) =
      Entries.ofPairs (sortPairs fields (before ++ after)) := by
  rw [sortPairs_append, sortPairs_append, sortPairs, sortPairs, List.filterMap_cons]
  cases named : sortField? fields request with
  | none => rfl
  | some field =>
    obtain ⟨text, listed⟩ := sortField?_some named
    rw [text] at earlier later
    exact ofPairs_between (mem_keys_sortPairs listed earlier) (mem_keys_sortPairs listed later)

/-- Whether a sort request is for a field that may be sorted by. -/
def isSortable (fields : List Text) (request : SortRequest) : Bool :=
  (sortField? fields request).isSome

/-- Requests for fields that may not be sorted by make no difference. -/
theorem sortPairs_filter (fields : List Text) (requests : List SortRequest) :
    sortPairs fields (requests.filter (isSortable fields)) = sortPairs fields requests := by
  rw [sortPairs, List.filterMap_filter]
  refine List.filterMap_congr fun request _ => ?_
  cases named : sortField? fields request <;> simp [isSortable, named]

/-- What a sort specification says of sort requests: each field that may be sorted by once, in the
order of the first requests for them, and each in the direction of the last request for it. -/
structure Prioritizes (fields : List Text) (requests : List SortRequest) (order : Entries) :
    Prop where
  ranks : order.keys = (requests.filterMap (sortField? fields)).eraseDups
  once : order.keys.Nodup
  ascending : ∀ before field direction after,
    requests = before ++ ⟨.str field, direction⟩ :: after → field ∈ fields →
    (∀ request ∈ after, request.field ≠ .str field) → IsOne direction →
    order.get? field = some (.int 1)
  descending : ∀ before field direction after,
    requests = before ++ ⟨.str field, direction⟩ :: after → field ∈ fields →
    (∀ request ∈ after, request.field ≠ .str field) → ¬ IsOne direction →
    order.get? field = some (.int (-1))

theorem prioritizes_sorts (fields : List Text) (requests : List SortRequest) :
    Prioritizes fields requests (Entries.ofPairs (sortPairs fields requests)) where
  ranks := keys_sorts requests
  once := Entries.nodup_ofPairs _
  ascending before field direction after := by
    rintro rfl listed others one
    rw [get?_sorts listed before direction others, direction_ascending one]
  descending before field direction after := by
    rintro rfl listed others other
    rw [get?_sorts listed before direction others, direction_descending other]

theorem signs_sorts (requests : List SortRequest) :
    ∀ entry ∈ Entries.ofPairs (sortPairs fields requests),
      entry.2 = .int 1 ∨ entry.2 = .int (-1) := by
  rintro ⟨key, value⟩ member
  have put := mem_of_lastOn (Entries.mem_ofPairs_iff.mp member)
  obtain ⟨request, -, named⟩ := List.mem_filterMap.mp put
  obtain ⟨field, -, same⟩ := Option.map_eq_some_iff.mp named
  cases same
  by_cases one : IsOne request.direction
  · exact Or.inl (direction_ascending one)
  · exact Or.inr (direction_descending one)

end SurveyDesk.Query

namespace SurveyDesk.Survey
open Work
open Query (Compiler Prioritizes isSortable sortPairs)
open SurveyDesk.Filter (SortRequest isText)

variable {desk : Desk} {ledger : Ledger}

/-- The meta documents that are found for a caller, in order of insertion. -/
def hitsFor (desk : Desk) (predicate : Value) (caller : Caller) : List Document :=
  desk.store.hitsIn metaCollection (some (listScope caller)) predicate

/-- The paths that surveys may be sorted by lead to numbers only. -/
theorem oneKind_metas (shows : Shows desk ledger) (predicate : Value) (caller : Caller)
    (allowed : path ∈ Compiler.surveySortFields) :
    SortSpec.OneKind path (hitsFor desk predicate caller) := by
  refine Or.inl fun document found => Or.inr ?_
  have stored := (List.mem_filter.mp found).1
  rw [shows.metas, Keyed.contents_byName] at stored
  obtain ⟨form, -, rfl⟩ := List.mem_map.mp stored
  rw [Form.named_metaDocument]
  simp only [Compiler.surveySortFields, List.mem_cons, List.not_mem_nil, or_false] at allowed
  rcases allowed with rfl | rfl | rfl
  · exact ⟨form.created, rfl⟩
  · exact ⟨form.updated, rfl⟩
  · exact ⟨form.current.date, rfl⟩

/-- Where the predicate can be asked of every survey of a caller, it can be judged of every meta
document which are hits. -/
theorem judged_metas (shows : Shows desk ledger)
    (decided : ∀ document ∈ listable desk caller,
      ∃ satisfied, Predicate.holds document predicate = .ok satisfied) :
    ∀ document ∈ (desk.store.collection metaCollection).contents,
      ∃ hit, Store.judge (some (listScope caller)) predicate document = .ok hit := by
  rw [shows.metas, Keyed.contents_byName]
  intro document stored
  obtain ⟨form, member, rfl⟩ := List.mem_map.mp stored
  rw [Store.judge, holds_listScope, ok_bind]
  cases listed : form.isListedFor caller with
  | false => exact ⟨false, rfl⟩
  | true =>
    refine decided form.metaDocument.named ?_
    rw [listable_eq shows]
    exact List.mem_map_of_mem (List.mem_map_of_mem (List.mem_filter.mpr ⟨member, listed⟩))

/-- A list shows a page of what is found, in the order of the specification. -/
theorem list_in_order (shows : Shows desk ledger) {order : SortSpec}
    (signs : ∀ entry ∈ order, entry.2 = .int 1 ∨ entry.2 = .int (-1))
    (kinds : ∀ path ∈ Entries.keys order, path ∈ Compiler.surveySortFields ∨
      SortSpec.OneKind path (hitsFor desk predicate caller))
    (decided : ∀ document ∈ listable desk caller,
      ∃ satisfied, Predicate.holds document predicate = .ok satisfied) (number size : Int) :
    ∃ sorted, (orderOr order).Ordered (hitsFor desk predicate caller) sorted ∧
      (list number size predicate order caller).outcome desk =
        (.ok (pageAnswered
          ⟨sorted.length, Store.pageItems (sorted.map Document.shown) number size⟩), desk) := by
  have signs : ∀ entry ∈ orderOr order, entry.2 = .int 1 ∨ entry.2 = .int (-1) := by
    unfold orderOr
    split
    · intro entry newest
      exact Or.inr (by rw [List.mem_singleton.mp newest])
    · exact signs
  have kinds : ∀ path ∈ Entries.keys (orderOr order),
      SortSpec.OneKind path (hitsFor desk predicate caller) := by
    unfold orderOr
    split
    · intro path newest
      refine oneKind_metas shows predicate caller ?_
      rw [List.mem_singleton.mp newest]
      decide
    · intro path member
      exact (kinds path member).elim (oneKind_metas shows predicate caller) id
  obtain ⟨answers, inOrder⟩ := Store.found_in_order signs kinds 1
  obtain ⟨page, found⟩ := answers.mpr (judged_metas shows decided)
  obtain ⟨total, sorted, ordered, documents⟩ := inOrder page found
  refine ⟨sorted, ordered, ?_⟩
  rw [outcome_list_find, Store.find_eq_slice, found, ordered.perm.length_eq, ← documents]
  exact congrArg (fun total => (Except.ok (pageAnswered ⟨total, _⟩), desk)) total

/-- Sort requests whose fields are texts are compiled to their priorities. Requests for other
fields, and requests for a field that is asked for before and after, make no difference. Surveys are
listed in the order of the priorities, or newest first if there are none. -/
theorem sorted_by_priorities (compiler : Compiler) {requests : List SortRequest}
    (texts : ∀ request ∈ requests, isText request.field) :
    ∃ order, compiler.compileSort requests = .ok order ∧
      Prioritizes compiler.sortFields requests order ∧
      (∀ others : List SortRequest, others.Sublist requests →
        others.filter (isSortable compiler.sortFields) =
          requests.filter (isSortable compiler.sortFields) →
        compiler.compileSort others = .ok order) ∧
      (∀ before request after, requests = before ++ request :: after →
        request.field ∈ before.map SortRequest.field →
        request.field ∈ after.map SortRequest.field →
        compiler.compileSort (before ++ after) = .ok order) ∧
      (∀ desk predicate caller number size, Reachable Op.any desk →
        (∀ path ∈ order.keys, path ∈ Compiler.surveySortFields ∨
          SortSpec.OneKind path (hitsFor desk predicate caller)) →
        (∀ document ∈ listable desk caller,
          ∃ satisfied, Predicate.holds document predicate = .ok satisfied) →
        ∃ sorted, (orderOr order).Ordered (hitsFor desk predicate caller) sorted ∧
          (list number size predicate order caller).outcome desk =
            (.ok (pageAnswered ⟨sorted.length,
              Store.pageItems (sorted.map Document.shown) number size⟩), desk)) := by
  refine ⟨_, Query.compileSort_eq compiler texts, Query.prioritizes_sorts _ _, ?_, ?_, ?_⟩
  · intro others within same
    rw [Query.compileSort_eq compiler fun request member => texts request (within.subset member),
      ← Query.sortPairs_filter, same, Query.sortPairs_filter]
  · rintro before request after rfl earlier later
    have fewer : ∀ other ∈ before ++ after, isText other.field := fun other member =>
      texts other (((List.sublist_cons_self request after).append_left before).subset member)
    rw [Query.compileSort_eq compiler fewer, Query.sorts_between earlier later]
  · intro desk predicate caller number size reached kinds decided
    obtain ⟨ledger, shows, -⟩ := reached.shows
    exact list_in_order shows (Query.signs_sorts requests) kinds decided number size

/-- Requests of which those for the date of creation are a number that is not one, a truth value and
one as a fraction, with a field among them that surveys cannot be sorted by. -/
private def byDates : List SortRequest :=
  [⟨.str "createDate", .int 2⟩, ⟨.str "updateDate", .null⟩, ⟨.str "title", .int 1⟩,
    ⟨.str "createDate", .bool true⟩, ⟨.str "createDate", .float (.finite false 2 (-1))⟩]

private def sorter : Caller := ⟨"8", "sor"⟩

private def datedDesk : Desk :=
  (Op.add (.str "b") .null .null sorter .null).after
    ((Op.add (.str "a") .null .null sorter .null).after (Desk.opened 0))

/-- The date of creation ranks first and ascends, since the last request for it says one. -/
theorem sorted_by_priorities_byDates :
    (∀ request ∈ byDates, isText request.field) ∧ Reachable Op.any datedDesk ∧
    ∃ order, Compiler.standard.compileSort byDates = .ok order ∧
      order = ([("createDate", .int 1), ("updateDate", .int (-1))] : Entries) ∧
      Prioritizes Compiler.surveySortFields byDates order ∧
      Compiler.standard.compileSort (byDates.filter (isSortable Compiler.surveySortFields)) =
        .ok order ∧
      Compiler.standard.compileSort (byDates.take 3 ++ byDates.drop 4) = .ok order ∧
      ∃ sorted, SortSpec.Ordered order (hitsFor datedDesk (.object []) sorter) sorted ∧
        (list 1 0 (.object []) order sorter).outcome datedDesk =
          (.ok (pageAnswered ⟨sorted.length, sorted.map Document.shown⟩), datedDesk) := by
  have texts : ∀ request ∈ byDates, isText request.field := by decide
  have reached : Reachable Op.any datedDesk := .step (.step (.opened 0) _ trivial) _ trivial
  obtain ⟨order, compiled, priorities, dropped, between, listed⟩ :=
    sorted_by_priorities .standard texts
  have computed : Compiler.standard.compileSort byDates =
    .ok [("createDate", .int 1), ("updateDate", .int (-1))] := by rfl
  cases computed.symm.trans compiled
  refine ⟨texts, reached, _, compiled, rfl, priorities,
    dropped _ List.filter_sublist (by rw [List.filter_filter]; simp [Compiler.standard]),
    between (byDates.take 3) ⟨.str "createDate", .bool true⟩ (byDates.drop 4) rfl ?_ ?_, ?_⟩
  · exact List.mem_cons_self
  · exact List.mem_cons_self
  · refine listed datedDesk (.object []) sorter 1 0 reached (fun path member => Or.inl ?_)
      fun document _ => ⟨true, by rw [Predicate.holds_object, Predicate.holdsAll_nil]⟩
    revert path
    decide

end SurveyDesk.Survey
