import SurveyDesk.Proofs.Http.Pages

/-! What every stored survey looks like, whatever was asked for and by whom. Title, remark and kind
of questions come from bodies in which they have been found to be texts that are not empty, or from
a survey that is copied; content comes from bodies in which it has been found to be an object, from
a survey that is copied, or from the desk itself. What is published is the content of a survey. -/
namespace SurveyDesk.Http

open Handling
open Survey (Form Ledger Shows documentsIn metaCollection configCollection publicationCollection)

variable {setup : Setup} {desk : Desk} {ledger left : Ledger} {claims : Entries}
  {body : RequestBody} {wanted : Operation} {result : Except Failure Value}

/-- A ledger whose surveys are filled and whose publications hold objects. -/
structure Formed (ledger : Ledger) : Prop where
  filled : ledger.Filled
  published : ∀ publication ∈ ledger.publications, ∃ entries, publication.code = .object entries

theorem formed_handled (formed : Formed ledger)
    (handled : Handled ledger claims body wanted result left) : Formed left := by
  refine ⟨filled_handled formed.filled handled, fun publication member => ?_⟩
  cases handled with
  | published code caller form _ _ owned held =>
    rcases Ledger.of_mem_published member with rfl | earlier
    · exact (formed.filled form (Ledger.mem_of_own owned)).code code held
    · exact formed.published publication earlier
  | _ => exact formed.published publication member

theorem formed_addResponse (formed : Formed ledger) (survey answers : Value) :
    Formed (ledger.perform (.addResponse survey answers)).2 := by
  rw [Ledger.perform, Ledger.addResponse]
  split
  · dsimp only
    split <;> exact ⟨formed.filled, formed.published⟩
  · exact formed

theorem Frequented.formed (frequented : Frequented setup desk) :
    ∃ ledger : Ledger, Shows desk ledger ∧ ledger.Sound ∧ Formed ledger :=
  frequented.keeps Formed (fun _ => ⟨nofun, nofun⟩) (fun _ formed did => formed_handled formed did)
    (fun survey answers _ formed => formed_addResponse formed survey answers)
    fun _ formed => ⟨formed.filled, formed.published⟩

/-- A survey's meta document shows its texts. -/
theorem texts_metaEntries {form : Form} (filled : form.Filled) :
    ∀ key ∈ ["title", "remark", "questionType"],
      ∃ text, (Value.object form.metaEntries).get? key = some (.str text) ∧ text ≠ "" := by
  obtain ⟨⟨title, titled, one⟩, ⟨remark, remarked, two⟩, ⟨type, typed, three⟩, -⟩ := filled
  simp only [List.forall_mem_cons, List.not_mem_nil, false_implies, implies_true, and_true]
  refine ⟨⟨title, ?_, one⟩, ⟨remark, ?_, two⟩, ⟨type, ?_, three⟩⟩
  · rw [← titled]
    rfl
  · rw [← remarked]
    rfl
  · rw [← typed]
    rfl

/-- At every desk that requests lead to, whether or not surveys are responded to as well, the title,
the remark and the kind of questions of each survey are texts that are not empty, and the content of
each survey and of each publication is an object. -/
theorem stored_surveys_are_formed (frequented : Frequented setup desk) :
    (∀ document ∈ documentsIn desk metaCollection, ∀ key ∈ ["title", "remark", "questionType"],
      ∃ text, document.get? key = some (.str text) ∧ text ≠ "") ∧
    ∀ name ∈ [configCollection, publicationCollection], ∀ document ∈ documentsIn desk name,
      ∃ entries, document.get? "code" = some (.object entries) := by
  obtain ⟨ledger, shows, -, formed⟩ := frequented.formed
  simp only [List.forall_mem_cons (a := configCollection),
    List.forall_mem_cons (a := publicationCollection), List.not_mem_nil, false_implies,
    implies_true, and_true]
  rw [Survey.documentsIn_metas shows, Survey.documentsIn_configs shows,
    Survey.documentsIn_publications shows]
  refine ⟨?_, ?_, ?_⟩
  · rintro _ member
    obtain ⟨form, listed, rfl⟩ := List.mem_map.mp member
    exact texts_metaEntries (formed.filled form listed)
  · rintro _ member
    obtain ⟨content, listed, rfl⟩ := List.mem_map.mp member
    obtain ⟨form, within, held⟩ := Ledger.mem_contents.mp listed
    have code := (Form.content?_eq_some.mp held).1
    obtain ⟨entries, same⟩ := (formed.filled form within).code content.code code
    exact ⟨entries, same ▸ rfl⟩
  · rintro _ member
    obtain ⟨publication, listed, rfl⟩ := List.mem_map.mp member
    obtain ⟨entries, code⟩ := formed.published publication listed
    exact ⟨entries, code ▸ rfl⟩

/-- Ida's survey has been added, its content saved and published: one document of each kind. -/
theorem stored_surveys_are_formed_published :
    let desk := ((serve unshared idasPublication).run idasDesk).2
    Frequented unshared desk ∧
      (∀ name ∈ [metaCollection, configCollection, publicationCollection],
        (documentsIn desk name).length = 1) ∧
      (∀ document ∈ documentsIn desk metaCollection, ∀ key ∈ ["title", "remark", "questionType"],
        ∃ text, document.get? key = some (.str text) ∧ text ≠ "") ∧
      ∀ name ∈ [configCollection, publicationCollection], ∀ document ∈ documentsIn desk name,
        ∃ entries, document.get? "code" = some (.object entries) := by
  intro desk
  have visited : Visited unshared idasDesk :=
    Visited.servedAll (.opened 1000) [idasAddition, idasContent]
  have frequented : Frequented unshared desk := (visited.served idasPublication).frequented
  obtain ⟨shows, sound⟩ := shows_idasDesk
  have named : Caller.ofClaims (.object idasClaims) = .ok ida := rfl
  have asked : surveyOfBody (.value (.object [("surveyId", .str "id1")])) = .ok idasSurvey.id := rfl
  obtain ⟨after, published, shown⟩ := outcome_publish shows sound asked named own_idasSurvey rfl
  have admitted : Operation.publish.admitted unshared.secrets idasPublication idasDesk.clock =
      .ok (.value (.object [("surveyId", .str "id1")]), idasClaims) := by
    rw [shows.clock]
    exact admitted_idasRequest rfl rfl rfl
  obtain ⟨headers, run⟩ := serve_admitted rfl rfl admitted published
  have here : desk = after := congrArg Prod.snd run
  refine ⟨frequented, ?_, stored_surveys_are_formed frequented⟩
  rw [here]
  simp only [List.forall_mem_cons, List.not_mem_nil, false_implies, implies_true, and_true]
  rw [Survey.documentsIn_metas shown, Survey.documentsIn_configs shown,
    Survey.documentsIn_publications shown]
  exact ⟨rfl, rfl, rfl⟩

end SurveyDesk.Http
