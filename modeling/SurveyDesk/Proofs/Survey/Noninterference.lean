import SurveyDesk.Proofs.Survey.Documents
import SurveyDesk.Proofs.Survey.OwnView
import SurveyDesk.Proofs.Survey.Refinement

/-! What a user can learn of others. Two desks that store the same for a user may differ in all that
the surveys of others hold, in their publications, their responses and their places; the user's
operations answer the same at both and leave them storing the same for the user. -/
namespace SurveyDesk.Survey

/-- The meta documents of a user's surveys. -/
def ownMetas (user : Text) (desk : Desk) : List Value :=
  (documentsIn desk metaCollection).filter (isOwnedBy user)

/-- The ids of a user's surveys. -/
def ownIdsAt (user : Text) (desk : Desk) : List Text :=
  (ownMetas user desk).filterMap (textAt? "_id")

/-- The documents of a collection that belong to a user's surveys. -/
def ownDocuments (user : Text) (desk : Desk) (name : Text) : List Value :=
  (documentsIn desk name).filter fun document =>
    (textAt? "pageId" document).any (· ∈ ownIdsAt user desk)

/-- The surveys of all others: their ids, their owners and whether they are removed. -/
def otherSurveys (user : Text) (desk : Desk) : List (Option Text × Option Text × Bool) :=
  ((documentsIn desk metaCollection).filter (!isOwnedBy user ·)).map fun document =>
    (textAt? "_id" document, textAt? "ownerId" document, saysRemoved document)

/-- Two desks store the same for a user: the same surveys of the user with all that belongs to them,
in order, and for everybody else the same ids with the same owners, removed or not. -/
structure SameFor (user : Text) (left right : Desk) : Prop where
  metas : ownMetas user left = ownMetas user right
  configs : ownDocuments user left configCollection = ownDocuments user right configCollection
  publications : ownDocuments user left publicationCollection =
    ownDocuments user right publicationCollection
  responses : ownDocuments user left responseCollection =
    ownDocuments user right responseCollection
  others : ∀ survey, survey ∈ otherSurveys user left ↔ survey ∈ otherSurveys user right
  time : left.time = right.time
  idsGiven : left.idsGiven = right.idsGiven

variable {desk left right : Desk} {ledger first second : Ledger} {user : Text}

/-! ## Documents and entries -/

theorem ownMetas_eq (shows : Shows desk ledger) (user : Text) :
    ownMetas user desk = (ledger.ownForms user).map fun form => .object form.metaEntries := by
  rw [ownMetas, documentsIn_metas shows, List.filter_map, Ledger.ownForms]
  refine congrArg _ (List.filter_congr fun form _ => ?_)
  rw [Function.comp_apply, isOwnedBy_meta, Form.isOf]

theorem ownIdsAt_eq (shows : Shows desk ledger) (user : Text) :
    ownIdsAt user desk = ledger.ownIds user := by
  have named : textAt? "_id" ∘ (fun form : Form => Value.object form.metaEntries) =
      fun form => some form.id := rfl
  rw [ownIdsAt, ownMetas_eq shows, List.filterMap_map, named, Ledger.ownIds]
  exact congrFun List.filterMap_eq_map _

theorem ownConfigs_eq (shows : Shows desk ledger) (sound : ledger.Sound) (user : Text) :
    ownDocuments user desk configCollection =
      ((ledger.ownForms user).filterMap Form.content?).map fun content =>
        .object content.entries := by
  have page : (fun document => (textAt? "pageId" document).any (· ∈ ledger.ownIds user)) ∘
      (fun content : Content => Value.object content.entries) =
      fun content => decide (content.id ∈ ledger.ownIds user) := rfl
  rw [ownDocuments, documentsIn_configs shows, ownIdsAt_eq shows, List.filter_map, page,
    Ledger.contents, Ledger.ownForms, List.filter_filterMap, List.filterMap_filter]
  refine congrArg _ (List.filterMap_congr fun form member => ?_)
  have mine : form.id ∈ ledger.ownIds user ↔ form.owner.id = user :=
    Ledger.mem_ownIds_iff sound member
  rw [Form.content?, Form.isOf]
  cases form.code with
  | none => simp
  | some code => by_cases own : form.owner.id = user <;> simp [mine, own]

theorem ownPublications_eq (shows : Shows desk ledger) (user : Text) :
    ownDocuments user desk publicationCollection =
      (ledger.ownPublications user).map fun publication => .object publication.entries := by
  rw [ownDocuments, documentsIn_publications shows, ownIdsAt_eq shows, List.filter_map,
    Ledger.ownPublications]
  rfl

theorem ownResponses_eq (shows : Shows desk ledger) (user : Text) :
    ownDocuments user desk responseCollection =
      (ledger.ownResponses user).map fun response => .object response.entries := by
  rw [ownDocuments, documentsIn_responses shows, ownIdsAt_eq shows, List.filter_map,
    Ledger.ownResponses]
  refine congrArg _ (List.filter_congr fun response _ => ?_)
  have page : (Value.object response.entries).get? "pageId" = some response.survey := rfl
  rw [Function.comp_apply, textAt?, page, Response.isTo]
  cases response.survey <;> rfl

/-- A mark as it is read off a document. -/
private def markRead (mark : Text × Text × Bool) : Option Text × Option Text × Bool :=
  (some mark.1, some mark.2.1, mark.2.2)

private theorem markRead_injective : Function.Injective markRead := by
  rintro ⟨id, owner, removed⟩ ⟨otherId, otherOwner, otherRemoved⟩ same
  simpa only [markRead, Prod.mk.injEq, Option.some.injEq] using same

theorem otherSurveys_eq (shows : Shows desk ledger) (user : Text) :
    otherSurveys user desk = (ledger.otherMarks user).map markRead := by
  have others : (fun document => !isOwnedBy user document) ∘
      (fun form : Form => Value.object form.metaEntries) = fun form => !form.isOf user :=
    funext fun form => congrArg not (isOwnedBy_meta user form)
  rw [otherSurveys, documentsIn_metas shows, List.filter_map, others, Ledger.otherMarks,
    List.map_map, List.map_map]
  refine List.map_congr_left fun form _ => ?_
  rw [Function.comp_apply, saysRemoved_meta]
  rfl

/-! ## Entries from documents -/

theorem Milestone.toValue_injective : Function.Injective Milestone.toValue := by
  intro first second same
  simp only [Milestone.toValue, Status.record, Value.object.injEq, List.cons.injEq, Prod.mk.injEq,
    Value.str.injEq, Value.int.injEq, true_and, and_true] at same
  obtain ⟨status, date⟩ := same
  exact Milestone.ext (Status.name_injective status) date

private theorem caller_eq {caller other : Caller} (id : caller.id = other.id)
    (name : caller.name = other.name) : caller = other := by
  cases caller
  cases other
  simp only at id name
  rw [id, name]

/-- A survey is determined by its meta document and its content. -/
theorem Form.eq_of_entries {form other : Form} (metas : form.metaEntries = other.metaEntries)
    (code : form.code = other.code) : form = other := by
  simp only [Form.metaEntries, List.cons.injEq, Prod.mk.injEq, true_and, and_true, Value.str.injEq,
    Value.int.injEq, Value.list.injEq] at metas
  obtain ⟨id, title, remark, questions, name, ownerId, status, statuses, created, updated⟩ := metas
  have current := Milestone.toValue_injective status
  have states := List.map_injective_iff.mpr Milestone.toValue_injective statuses
  rw [current] at states
  exact Form.ext id title remark questions (caller_eq ownerId name)
    (List.append_cancel_right states) current created updated code

theorem Content.entries_injective : Function.Injective Content.entries := by
  intro first second same
  simp only [Content.entries, List.cons.injEq, Prod.mk.injEq, true_and, and_true,
    Value.str.injEq] at same
  exact Content.ext same.1 same.2.2

theorem Publication.entries_injective : Function.Injective Publication.entries := by
  intro first second same
  simp only [Publication.entries, List.cons.injEq, Prod.mk.injEq, true_and, and_true,
    Value.str.injEq, Value.int.injEq] at same
  obtain ⟨id, -, code, date⟩ := same
  exact Publication.ext id code date

theorem Response.entries_injective : Function.Injective Response.entries := by
  intro first second same
  simp only [Response.entries, List.cons.injEq, Prod.mk.injEq, true_and, and_true,
    Value.str.injEq, Value.int.injEq] at same
  obtain ⟨id, survey, answers, date⟩ := same
  exact Response.ext id survey answers date

/-- The content of a survey is looked up among the contents of several. -/
private theorem code_eq {forms : List Form} (distinct : (forms.map Form.id).Nodup) {form : Form}
    (member : form ∈ forms) : form.code =
      ((forms.filterMap Form.content?).find? fun content => content.id = form.id).map
        Content.code := by
  rw [Keyed.find?_parts (fun _ _ there => (Form.content?_eq_some.mp there).2) distinct,
    Keyed.find?_of_mem distinct member, Option.bind_some, Form.code_content?]

private theorem forms_eq_of_code {forms others : List Form} (code : Text → Option Value)
    (metas : forms.map Form.metaEntries = others.map Form.metaEntries)
    (left : ∀ form ∈ forms, form.code = code form.id)
    (right : ∀ other ∈ others, other.code = code other.id) : forms = others := by
  induction forms generalizing others with
  | nil => exact (List.map_eq_nil_iff.mp metas.symm).symm
  | cons form rest ih =>
    cases others with
    | nil => cases metas
    | cons other tail =>
      obtain ⟨firstMeta, restMetas⟩ := List.cons.inj metas
      obtain ⟨leftFirst, leftRest⟩ := List.forall_mem_cons.mp left
      obtain ⟨rightFirst, rightRest⟩ := List.forall_mem_cons.mp right
      have named : form.id = other.id :=
        Value.str.inj (congrArg Prod.snd (List.cons.inj firstMeta).1)
      rw [Form.eq_of_entries firstMeta (by rw [leftFirst, rightFirst, named]),
        ih restMetas leftRest rightRest]

/-- Surveys are determined by their meta documents and the contents that there are. -/
private theorem forms_eq {forms others : List Form} (distinct : (forms.map Form.id).Nodup)
    (apart : (others.map Form.id).Nodup)
    (metas : forms.map Form.metaEntries = others.map Form.metaEntries)
    (contents : forms.filterMap Form.content? = others.filterMap Form.content?) :
    forms = others := by
  let code (id : Text) : Option Value :=
    ((forms.filterMap Form.content?).find? fun content => content.id = id).map Content.code
  refine forms_eq_of_code code metas (fun form member => code_eq distinct member)
    fun other member => ?_
  change other.code = Option.map _ (List.find? _ (forms.filterMap Form.content?))
  rw [contents]
  exact code_eq apart member

private theorem map_object {entries : α → Entries} {items others : List α}
    (same : (items.map fun item => Value.object (entries item)) =
      others.map fun item => Value.object (entries item)) :
    items.map entries = others.map entries := by
  have object : Function.Injective Value.object := fun _ _ => Value.object.inj
  refine List.map_injective_iff.mpr object ?_
  rw [List.map_map, List.map_map]
  exact same

/-- Desks store the same for a user exactly if the ledgers that they show hold the same. -/
theorem sameFor_iff (leftShows : Shows left first) (rightShows : Shows right second)
    (leftSound : first.Sound) (rightSound : second.Sound) :
    SameFor user left right ↔ Ledger.SameFor user first second := by
  constructor
  · intro same
    have metas := same.metas
    have configs := same.configs
    have publications := same.publications
    have responses := same.responses
    rw [ownMetas_eq leftShows, ownMetas_eq rightShows] at metas
    rw [ownConfigs_eq leftShows leftSound, ownConfigs_eq rightShows rightSound] at configs
    rw [ownPublications_eq leftShows, ownPublications_eq rightShows] at publications
    rw [ownResponses_eq leftShows, ownResponses_eq rightShows] at responses
    exact {
      forms := forms_eq (Ledger.nodup_ownIds leftSound) (Ledger.nodup_ownIds rightSound)
        (map_object metas)
        (List.map_injective_iff.mpr Content.entries_injective (map_object configs))
      publications :=
        List.map_injective_iff.mpr Publication.entries_injective (map_object publications)
      responses := List.map_injective_iff.mpr Response.entries_injective (map_object responses)
      others := fun mark => by
        have read := same.others (markRead mark)
        rwa [otherSurveys_eq leftShows, otherSurveys_eq rightShows,
          List.mem_map_of_injective markRead_injective,
          List.mem_map_of_injective markRead_injective] at read
      time := leftShows.time.symm.trans (same.time.trans rightShows.time)
      idsGiven := leftShows.idsGiven.symm.trans (same.idsGiven.trans rightShows.idsGiven) }
  · intro same
    exact {
      metas := by rw [ownMetas_eq leftShows, ownMetas_eq rightShows, same.forms]
      configs := by
        rw [ownConfigs_eq leftShows leftSound, ownConfigs_eq rightShows rightSound, same.forms]
      publications := by
        rw [ownPublications_eq leftShows, ownPublications_eq rightShows, same.publications]
      responses := by rw [ownResponses_eq leftShows, ownResponses_eq rightShows, same.responses]
      others := fun survey => by
        rw [otherSurveys_eq leftShows, otherSurveys_eq rightShows, List.mem_map, List.mem_map]
        simp only [same.others]
      time := leftShows.time.trans (same.time.trans rightShows.time.symm)
      idsGiven := leftShows.idsGiven.trans (same.idsGiven.trans rightShows.idsGiven.symm) }

/-- At any two desks that operations lead to and that store the same for a user, every operation of
the user has the same answer or the same fault, and the desks that it leaves store the same for the
user again. -/
theorem noninterference (leftReached : Reachable Op.any left)
    (rightReached : Reachable Op.any right) (same : SameFor user left right) (op : Op)
    (mine : op.IsBy user) :
    op.answer left = op.answer right ∧ SameFor user (op.after left) (op.after right) := by
  obtain ⟨first, leftShows, leftSound⟩ := leftReached.shows
  obtain ⟨second, rightShows, rightSound⟩ := rightReached.shows
  have held := (sameFor_iff leftShows rightShows leftSound rightSound).mp same
  obtain ⟨answers, after⟩ := Ledger.indistinct_perform held leftSound rightSound op mine
  constructor
  · rw [answer_eq leftShows leftSound, answer_eq rightShows rightSound, answers]
  · exact (sameFor_iff (shows_after leftShows leftSound op) (shows_after rightShows rightSound op)
      (Ledger.sound_perform leftSound op) (Ledger.sound_perform rightSound op)).mpr after

private def cleo : Caller := ⟨"3", "cleo"⟩

private def dora : Caller := ⟨"4", "dora"⟩

/-- Cleo and Dora add a survey each. -/
private def quietOps : List Op := [
  .add (.str "a") .null .null cleo .null, .add (.str "b") .null .null dora .null]

/-- Cleo's survey has another title, another type and other content. -/
private def busyOps : List Op := [
  .add (.str "c") .null (.str "vote") cleo (.int 7), .add (.str "b") .null .null dora .null]

theorem noninterference_otherTitles :
    (Op.publish (.str "id2") dora).IsBy dora.id ∧
    SameFor dora.id (Op.run quietOps (Desk.opened 0)) (Op.run busyOps (Desk.opened 0)) ∧
    (Op.publish (.str "id2") dora).answer (Op.run quietOps (Desk.opened 0)) =
      (Op.publish (.str "id2") dora).answer (Op.run busyOps (Desk.opened 0)) := by
  have sound := Ledger.sound_opened 0
  have held : Ledger.SameFor dora.id ((Ledger.opened 0).run quietOps)
      ((Ledger.opened 0).run busyOps) :=
    { forms := rfl, publications := rfl, responses := rfl, others := fun _ => Iff.rfl, time := rfl,
      idsGiven := rfl }
  have same : SameFor dora.id (Op.run quietOps (Desk.opened 0)) (Op.run busyOps (Desk.opened 0)) :=
    (sameFor_iff (shows_run (shows_opened 0) sound quietOps)
      (shows_run (shows_opened 0) sound busyOps) (Ledger.sound_run sound quietOps)
      (Ledger.sound_run sound busyOps)).mpr held
  have mine : (Op.publish (.str "id2") dora).IsBy dora.id := ⟨rfl, rfl⟩
  refine ⟨mine, same, ?_⟩
  exact (noninterference ((Reachable.opened 0).run quietOps fun _ _ => trivial)
    ((Reachable.opened 0).run busyOps fun _ _ => trivial) same _ mine).1

/-- Nor do any number of the user's operations, one after another, tell the two desks apart. -/
theorem noninterference_run (leftReached : Reachable Op.any left)
    (rightReached : Reachable Op.any right) (same : SameFor user left right) (ops : List Op)
    (mine : ∀ op ∈ ops, op.IsBy user) :
    Op.answers ops left = Op.answers ops right ∧
      SameFor user (Op.run ops left) (Op.run ops right) := by
  obtain ⟨first, leftShows, leftSound⟩ := leftReached.shows
  obtain ⟨second, rightShows, rightSound⟩ := rightReached.shows
  have held := (sameFor_iff leftShows rightShows leftSound rightSound).mp same
  obtain ⟨answers, after⟩ := Ledger.indistinct_run held leftSound rightSound ops mine
  constructor
  · rw [answers_eq leftShows leftSound, answers_eq rightShows rightSound, answers]
  · exact (sameFor_iff (shows_run leftShows leftSound ops) (shows_run rightShows rightSound ops)
      (Ledger.sound_run leftSound ops) (Ledger.sound_run rightSound ops)).mpr after

end SurveyDesk.Survey
