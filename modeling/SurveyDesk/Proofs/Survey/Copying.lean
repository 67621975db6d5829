import SurveyDesk.Proofs.Survey.Frame

/-! What a copy of a survey is. It is a new survey of the caller's with the content that the other
has just then, whatever of it is published, and with the kind of its questions; it has a life of its
own from its first state on, and neither a publication nor responses. From then on the two are
apart: whatever is done to one of them leaves the documents of the other alone. Content is copied
from one call further in than when it is saved, so what was just about saved cannot be copied: the
new survey is there then, and has no content. -/
namespace SurveyDesk.Survey

/-- What making a copy does: it adds a meta document and config documents, one or none, under an id
that no survey, publication or response names, and nothing else. -/
structure AddsCopy (before after : Desk) (id : Text) (survey : Value) (configs : List Value) :
    Prop where
  fresh : ∀ name ∈ surveyCollections ++ [responseCollection], documentsOf before id name = []
  survey : documentsOf after id metaCollection = [survey]
  configs : documentsOf after id configCollection = configs
  bare : ∀ name ∈ [publicationCollection, responseCollection], documentsOf after id name = []
  added : ∀ name ∈ surveyCollections ++ [responseCollection],
    documentsIn after name = documentsIn before name ++ documentsOf after id name
  history : documentsIn after historyCollection = documentsIn before historyCollection

variable {desk after : Desk} {ledger : Ledger} {form : Form} {caller : Caller} {id name : Text}

/-- Nothing belongs to a survey under the next id, though a history record may name it already. -/
theorem documentsOf_nextId (shows : Shows desk ledger) (sound : ledger.Sound) :
    ∀ name ∈ surveyCollections ++ [responseCollection],
      documentsOf desk ledger.nextId name = [] := by
  have absent := Ledger.fresh_nextId sound
  have forms : ledger.forms.filter (·.id = ledger.nextId) = [] := by
    refine List.filter_eq_nil_iff.mpr fun form member same => absent ?_
    exact of_decide_eq_true same ▸ Ledger.mem_ids_of_mem member
  have publications : ledger.publications.filter (·.id = ledger.nextId) = [] := by
    refine List.filter_eq_nil_iff.mpr fun publication member same => absent ?_
    exact of_decide_eq_true same ▸ sound.published publication member
  have responses : ledger.responses.filter (·.isTo [ledger.nextId]) = [] := by
    refine List.filter_eq_nil_iff.mpr fun response member named => ?_
    unfold Response.isTo at named
    split at named
    · rename_i text said
      obtain rfl : text = ledger.nextId := by simpa using named
      exact absent (sound.responded response member _ said)
    · cases named
  simp only [surveyCollections, List.cons_append, List.nil_append, List.forall_mem_cons]
  refine ⟨?_, ?_, ?_, ?_, List.forall_mem_nil _⟩
  · rw [Ledger.documentsOf_metas shows, forms, List.map_nil]
  · rw [Ledger.documentsOf_configs shows, forms, List.filterMap_nil, List.map_nil]
  · rw [Ledger.documentsOf_publications shows, publications, List.map_nil]
  · rw [Ledger.documentsOf_responses shows, responses, List.map_nil]

/-- Where nothing belonged to a survey, what belongs to it is what is added for it. -/
theorem documentsOf_of_added {added : List Value} (fresh : documentsOf desk id name = [])
    (more : documentsIn after name = documentsIn desk name ++ added)
    (named : ∀ document ∈ added, textAt? (surveyKey name) document = some id) :
    documentsOf after id name = added := by
  have own : added.filter (fun document => textAt? (surveyKey name) document = some id) = added :=
    List.filter_eq_self.mpr fun document member => decide_eq_true (named document member)
  rw [documentsOf, more, List.filter_append, own]
  exact congrArg (· ++ added) fresh

/-- Adding a survey adds its meta document, and a config document if it has content. -/
theorem addsCopy_added (shows : Shows desk ledger) (sound : ledger.Sound)
    {title remark questionType : Value} {code : Option Value}
    (shown : Shows after (ledger.added title remark questionType caller code)) :
    AddsCopy desk after ledger.nextId
      (metaRecord (.str ledger.nextId) title remark questionType caller desk.now)
      (code.map (configRecord (.str ledger.nextId))).toList := by
  have fresh := documentsOf_nextId shows sound
  have metas : documentsIn after metaCollection = documentsIn desk metaCollection ++
      [metaRecord (.str ledger.nextId) title remark questionType caller desk.now] := by
    rw [documentsIn_metas shown, documentsIn_metas shows, now_of_shows shows]
    exact List.map_append
  have configs : documentsIn after configCollection = documentsIn desk configCollection ++
      (code.map (configRecord (.str ledger.nextId))).toList := by
    rw [documentsIn_configs shown, documentsIn_configs shows, Ledger.contents_added]
    cases code <;> exact List.map_append
  have publications : documentsIn after publicationCollection =
      documentsIn desk publicationCollection ++ [] := by
    rw [documentsIn_publications shown, documentsIn_publications shows, List.append_nil]
    rfl
  have responses : documentsIn after responseCollection =
      documentsIn desk responseCollection ++ [] := by
    rw [documentsIn_responses shown, documentsIn_responses shows, List.append_nil]
    rfl
  have survey := documentsOf_of_added (fresh _ (by decide)) metas (by simp; rfl)
  have config := documentsOf_of_added (fresh _ (by decide)) configs (by cases code <;> simp; rfl)
  have unpublished :=
    documentsOf_of_added (fresh _ (by decide)) publications (List.forall_mem_nil _)
  have unanswered := documentsOf_of_added (fresh _ (by decide)) responses (List.forall_mem_nil _)
  refine ⟨fresh, survey, config, ?_, ?_, ?_⟩
  · simp only [List.forall_mem_cons]
    exact ⟨unpublished, unanswered, List.forall_mem_nil _⟩
  · simp only [surveyCollections, List.cons_append, List.nil_append, List.forall_mem_cons]
    rw [survey, config, unpublished, unanswered]
    exact ⟨metas, configs, publications, responses, List.forall_mem_nil _⟩
  · rw [documentsIn_snapshots shown, documentsIn_snapshots shows]
    rfl

/-- Copying a survey of one's own is adding a survey with its content. -/
theorem Ledger.perform_copy {method : Value} (sound : ledger.Sound)
    (owned : ledger.own (.str form.id) caller = .ok form)
    (copies : method.equals (.str copyMethod) = true) (title remark questionType : Value) :
    ledger.perform (.create title remark questionType method (.str form.id) caller) =
      ledger.add 3 title remark form.questionType caller (form.code.getD .null) := by
  simp only [perform, if_pos copies, withOwn, owned, copy,
    contentNamed_id sound (mem_of_own owned), Form.code_content?]

end SurveyDesk.Survey
