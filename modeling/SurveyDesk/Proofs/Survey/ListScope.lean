import SurveyDesk.Proofs.Store.Page
import SurveyDesk.Proofs.Survey.Documents
import SurveyDesk.Proofs.Survey.Refinement

/-! What a caller can list. The scope of a list is a predicate of its own that is decided before the
caller's, so no predicate, order or page shows a survey of somebody else or one that was removed. -/
namespace SurveyDesk.Survey
open Work

/-- Whether a predicate is satisfied without a fault. -/
def satisfies (predicate document : Value) : Bool :=
  match Predicate.holds document predicate with
  | .ok satisfied => satisfied
  | .error _ => false

/-- Whether a meta document belongs into a caller's list. -/
def belongs (predicate : Value) (caller : Caller) (document : Value) : Bool :=
  isOwnedBy caller.id document && !saysRemoved document && satisfies predicate document

variable {desk : Desk} {ledger : Ledger}

private theorem belongs_meta (predicate : Value) (caller : Caller) (form : Form) :
    belongs predicate caller (.object form.metaEntries) =
      (form.isListedFor caller && satisfies predicate (.object form.metaEntries)) := by
  rw [belongs, isOwnedBy_meta, saysRemoved_meta, Form.isListedFor]

/-- What is found for a caller are the documents that belong into its list. -/
theorem found_eq_belongs {predicate : Value} {found : List Document}
    (hit : Store.hits none predicate (ledger.listedFor caller) = .ok found)
    (shows : Shows desk ledger) :
    found.map Document.shown =
      (documentsIn desk metaCollection).filter (belongs predicate caller) := by
  rw [Store.hits_eq_filter hit, documentsIn_metas shows, Ledger.listedFor, List.filter_map,
    List.filter_map, List.filter_filter, List.map_map]
  have documents : (Document.shown ∘ Form.metaDocument) =
      fun form => Value.object form.metaEntries := funext Form.shown_metaDocument
  rw [documents]
  refine congrArg _ (List.filter_congr fun form _ => ?_)
  simp only [Function.comp_apply, belongs_meta, Form.named_metaDocument]
  rw [Bool.and_comm]
  rfl

private theorem of_belongs {predicate document : Value} (shows : Shows desk ledger)
    (listed : document ∈ (documentsIn desk metaCollection).filter (belongs predicate caller)) :
    document.get? "ownerId" = some (.str caller.id) ∧
      (∃ status : Status, status ≠ .removed ∧
        document.at? "curStatus.status" = some (.str status.name)) ∧
      Predicate.holds document predicate = .ok true := by
  obtain ⟨stored, belonging⟩ := List.mem_filter.mp listed
  rw [documentsIn_metas shows] at stored
  obtain ⟨form, _, rfl⟩ := List.mem_map.mp stored
  rw [belongs_meta, Bool.and_eq_true, Form.isListedFor, Bool.and_eq_true] at belonging
  obtain ⟨⟨mine, present⟩, satisfied⟩ := belonging
  have owner : form.owner.id = caller.id := by simpa using mine
  have status : form.current.status ≠ .removed := by simpa [Form.isRemoved] using present
  have holds : Predicate.holds (.object form.metaEntries) predicate = .ok true := by
    unfold satisfies at satisfied
    split at satisfied
    · rename_i answer held
      rw [held, satisfied]
    · cases satisfied
  exact ⟨owner ▸ rfl, ⟨form.current.status, status, rfl⟩, holds⟩

/-- For every desk that operations lead to, a list that is answered leaves the desk as it is, counts
exactly the stored surveys that are the caller's, not removed and satisfy the predicate, and shows
only such surveys, none of them twice. -/
theorem list_scope (reached : Reachable Op.any desk)
    (answered : (list number size predicate order caller).outcome desk = (.ok answer, after)) :
    after = desk ∧ ∃ shown,
      answer = .object [
        ("count",
          .int ((documentsIn desk metaCollection).filter (belongs predicate caller)).length),
        ("data", .list shown)] ∧
      shown.Subperm ((documentsIn desk metaCollection).filter (belongs predicate caller)) ∧
      ∀ document ∈ shown, document.get? "ownerId" = some (.str caller.id) ∧
        (∃ status : Status, status ≠ .removed ∧
          document.at? "curStatus.status" = some (.str status.name)) ∧
        Predicate.holds document predicate = .ok true := by
  obtain ⟨ledger, shows, sound⟩ := reached.shows
  have listed := outcome_list shows number size predicate order caller
  rw [Op.perform, outcome_map, answered] at listed
  obtain ⟨same, kept⟩ := Prod.mk.inj listed
  refine ⟨kept, ?_⟩
  obtain ⟨page, answers, made⟩ := bind_eq_ok.mp same.symm
  obtain ⟨found, hit, total, subperm⟩ := Store.pageOf_ok (mapError_eq_ok.mp answers)
  rw [found_eq_belongs hit shows] at subperm
  have counted : page.total =
      ((documentsIn desk metaCollection).filter (belongs predicate caller)).length := by
    rw [total, ← found_eq_belongs hit shows, List.length_map]
  cases made
  clear listed same
  refine ⟨page.documents, by rw [counted], subperm, fun document shown => ?_⟩
  exact of_belongs shows (subperm.subset shown)

private def ada : Caller := ⟨"1", "ada"⟩

private def ben : Caller := ⟨"2", "ben"⟩

/-- A desk with three surveys: one of Ben's, one of Ada's and one of Ada's that was removed. -/
private def threeSurveys : Desk :=
  let first := (Op.add (.str "a") .null .null ben .null).after (Desk.opened 0)
  let second := (Op.add (.str "b") .null .null ada .null).after first
  let third := (Op.add (.str "c") .null .null ada .null).after second
  (Op.delete (.str "id3") ada).after third

/-- A predicate that asks for the surveys of somebody else or for those with a title. -/
private def wide : Value :=
  .object [("OR", .list [.object [("ownerId", .str "2")],
    .object [("title", Predicate.Operator.notEqual.fragment .null)]])]

/-- Of three surveys, of which the caller owns two and has removed one, one is listed, though all
satisfy the predicate. -/
theorem list_scope_threeSurveys :
    Reachable Op.any threeSurveys ∧
    (documentsIn threeSurveys metaCollection).all (satisfies wide) = true ∧
    ∃ shown, (list 1 10 wide [] ada).outcome threeSurveys =
        (.ok (.object [("count", .int 1), ("data", .list shown)]), threeSurveys) ∧
      ∀ document ∈ shown, document.get? "ownerId" = some (.str ada.id) := by
  have reached : Reachable Op.any threeSurveys :=
    .step (.step (.step (.step (.opened 0) _ trivial) _ trivial) _ trivial) _ trivial
  refine ⟨reached, by decide +kernel, ?_⟩
  have answers : ((list 1 10 wide [] ada).outcome threeSurveys).1.isOk = true := by decide +kernel
  obtain ⟨answer, answered⟩ : ∃ answer, (list 1 10 wide [] ada).outcome threeSurveys =
      (.ok answer, ((list 1 10 wide [] ada).outcome threeSurveys).2) := by
    generalize (list 1 10 wide [] ada).outcome threeSurveys = outcome at answers
    obtain ⟨_ | answer, after⟩ := outcome
    · cases answers
    · exact ⟨answer, rfl⟩
  obtain ⟨kept, shown, counted, -, within⟩ := list_scope reached answered
  have one : ((documentsIn threeSurveys metaCollection).filter (belongs wide ada)).length = 1 := by
    decide +kernel
  rw [kept, counted, one] at answered
  exact ⟨shown, answered, fun document listed => (within document listed).1⟩

end SurveyDesk.Survey
