import SurveyDesk.Proofs.Survey.Chronicle
import SurveyDesk.Proofs.Survey.Ownership
import SurveyDesk.Proofs.Survey.OwnView

/-! How the documents of a desk refer to one another. A survey is addressed in three ways: by the
key that its document is stored under, by the id that the document carries, and by the page that the
documents around it name. All three lead to the same survey. What is looked up for a survey is
there, unless its creation was cut short: the meta document is stored before the content is copied,
and stays if the content turns out to be nested too deeply for that. -/
namespace SurveyDesk.Survey

/-- The ids that documents of a collection are stored under, in their order. -/
def idsIn (desk : Desk) (name : Text) : List Value := (desk.store.collection name).map Prod.fst

/-- Whether an operation that responds to a survey names the survey by a text. -/
def Op.RespondsByText : Op → Prop
  | .addResponse id _ => ∃ text, id = .str text
  | _ => True

/-- The survey that an operation left without content, if it was cut short in adding one. -/
def Telling.halfMade? (telling : Telling) : Option Text :=
  match telling.op, telling.answer with
  | .add .., .error _ | .create .., .error _ => telling.taken
  | _, _ => none

/-- The surveys that a run left without content. -/
def Op.halfMade (ops : List Op) (clock : Int) : List Text :=
  (Op.tellings ops (Desk.opened clock)).filterMap Telling.halfMade?

/-- The documents of a desk refer to one another without a gap, except that some surveys are without
content. -/
structure Referenced (halfMade : List Text) (desk : Desk) : Prop where
  paired : ∃ names : List Text, names.Nodup ∧ halfMade ⊆ names ∧
    idsIn desk metaCollection = names.map Value.str ∧
    idsIn desk configCollection = (names.filter (· ∉ halfMade)).map Value.str
  named : ∀ name ∈ surveyCollections, ∀ row ∈ desk.store.collection name,
    ∃ id, row.1 = .str id ∧ row.2.named.get? "_id" = some (.str id)
  paged : ∀ name ∈ [configCollection, publicationCollection],
    ∀ row ∈ desk.store.collection name, row.2.named.get? "pageId" = some row.1
  published : ∀ id ∈ idsIn desk publicationCollection, id ∈ idsIn desk metaCollection
  responded : ∀ row ∈ desk.store.collection responseCollection,
    ∃ id, row.2.named.get? "pageId" = some (.str id) ∧ .str id ∈ idsIn desk metaCollection

namespace Ledger

variable {ledger : Ledger} {op : Op}

/-! ## Surveys without content -/

/-- The surveys of a ledger that are without content. -/
def unfilled (ledger : Ledger) : List Text :=
  (ledger.forms.filter (·.code.isNone)).map Form.id

theorem mem_unfilled {form : Form} (sound : ledger.Sound) (member : form ∈ ledger.forms) :
    form.id ∈ ledger.unfilled ↔ form.code = none := by
  simp only [unfilled, List.mem_map, List.mem_filter, Option.isNone_iff_eq_none]
  constructor
  · rintro ⟨other, ⟨there, empty⟩, same⟩
    rwa [← sound.eq_of_id member there same]
  · intro empty
    exact ⟨form, ⟨member, empty⟩, rfl⟩

theorem unfilled_put {after : Ledger} {form edited : Form} (sound : ledger.Sound)
    (member : form ∈ ledger.forms) (forms : after.forms = (ledger.put edited).forms)
    (named : edited.id = form.id) (same : edited.code.isNone = form.code.isNone) :
    after.unfilled = ledger.unfilled := by
  have kept : ledger.forms.filter ((fun form => form.code.isNone) ∘
      fun other => if other.id = edited.id then edited else other) =
      ledger.forms.filter (·.code.isNone) := by
    refine List.filter_congr fun other within => ?_
    rw [Function.comp_apply]
    split
    · rename_i here
      rw [same, sound.eq_of_id member within (here.trans named)]
    · rfl
  rw [unfilled, forms, put, unfilled, List.filter_map, List.map_map, kept]
  refine List.map_congr_left fun other _ => ?_
  rw [Function.comp_apply]
  split
  · rename_i here
    exact here.symm
  · rfl

theorem unfilled_added (title remark questionType : Value) (caller : Caller)
    (stored : Option Value) :
    (ledger.added title remark questionType caller stored).unfilled =
      ledger.unfilled ++ if stored.isNone then [ledger.nextId] else [] := by
  rw [unfilled, added, List.filter_append, List.map_append, unfilled]
  cases stored <;> rfl

theorem halfMade?_failed {taken : Option Text} (fault : Fault)
    (other : taken = none ∨ ¬ op.Creates) :
    (Telling.mk op (.error fault) taken).halfMade? = none := by
  cases op with
  | add | create => exact other.resolve_right (not_not_intro trivial)
  | _ => rfl

/-- An operation leaves those without content that were so, and one more if it was cut short. -/
theorem unfilled_perform (sound : ledger.Sound) (op : Op) :
    (ledger.perform op).2.unfilled = ledger.unfilled ++
      (Telling.halfMade? ⟨op, (ledger.perform op).1, ledger.taken op⟩).toList := by
  rw [taken]
  have step := step_perform ledger op
  generalize (ledger.perform op).1 = answer at step
  generalize (ledger.perform op).2 = after at step ⊢
  cases step with
  | failed op fault time idsGiven passed more =>
    rw [halfMade?_failed fault, Option.toList_none, List.append_nil]
    · rfl
    · exact more.imp (fun same => if_pos same) And.left
  | read op reads => cases op <;> first | exact reads.elim | exact (List.append_nil _).symm
  | waited | paced | responded | recorded => exact (List.append_nil _).symm
  | added title remark questionType caller code kept
  | created title remark questionType method source caller anew kept
  | copied title remark questionType method source caller form content copies owned named kept =>
    rw [unfilled_added, added, if_neg (Nat.succ_ne_self _)]
    cases kept <;> rfl
  | updated title remark caller form owned | removed id caller form owned
  | published caller form content owned =>
    refine Eq.trans ?_ (List.append_nil _).symm
    exact unfilled_put sound (mem_of_own owned) rfl rfl rfl
  | saved code caller form owned =>
    refine Eq.trans ?_ (List.append_nil _).symm
    exact unfilled_put sound (mem_of_own owned) rfl rfl Option.isNone_map

theorem unfilled_run {desk : Desk} (shows : Shows desk ledger) (sound : ledger.Sound)
    (ops : List Op) : (ledger.run ops).unfilled =
      ledger.unfilled ++ (Op.tellings ops desk).filterMap Telling.halfMade? := by
  induction ops generalizing desk ledger with
  | nil => exact (List.append_nil _).symm
  | cons op rest ih =>
    rw [run, ih (shows_after shows sound op) (sound_perform sound op), unfilled_perform sound,
      Op.tellings, List.append_assoc, telling_eq shows sound]
    cases made : Telling.halfMade? ⟨op, (ledger.perform op).1, ledger.taken op⟩ with
    | none => rw [List.filterMap_cons_none made, Option.toList_none, List.nil_append]
    | some id => rw [List.filterMap_cons_some made, Option.toList_some, List.singleton_append]

/-! ## Responses -/

/-- A ledger whose responses all name their survey by a text. -/
def Addressed (ledger : Ledger) : Prop :=
  ∀ response ∈ ledger.responses, ∃ id, response.survey = .str id

theorem addressed_perform (addressed : ledger.Addressed) (fits : op.RespondsByText) :
    (ledger.perform op).2.Addressed := by
  have step := step_perform ledger op
  generalize (ledger.perform op).1 = answer at step
  generalize (ledger.perform op).2 = after at step ⊢
  cases step with
  | responded id answers form found =>
    intro response member
    rcases List.mem_append.mp member with earlier | here
    · exact addressed response earlier
    · rw [List.mem_singleton.mp here]
      exact fits
  | _ => exact addressed

/-- Whoever names a survey by a text finds it, or hears that it does not exist or is not theirs. -/
theorem own_text (sound : ledger.Sound) (id : Text) (caller : Caller) :
    (∃ form, ledger.own (.str id) caller = .ok form) ∨
      ledger.own (.str id) caller = .error (missing (.str id)) ∨
      ledger.own (.str id) caller = .error notAllowed := by
  by_cases present : ∃ form ∈ ledger.forms, form.id = id
  · obtain ⟨form, member, rfl⟩ := present
    rw [own_of_mem sound member]
    by_cases gone : form.isRemoved
    · exact .inr (.inl (if_pos gone))
    · rw [if_neg gone]
      by_cases mine : form.owner.id = caller.id
      · exact .inl ⟨form, if_pos mine⟩
      · exact .inr (.inr (if_neg mine))
  · have absent : ∀ form ∈ ledger.forms, Value.str id ≠ .str form.id := by
      intro form member same
      exact present ⟨form, member, (Value.str.inj same).symm⟩
    exact .inr (.inl (own_of_absent rfl absent caller))

end Ledger

variable {desk : Desk} {ledger : Ledger}

/-- A run in which surveys are responded to by text leads to a ledger that says so. -/
theorem Ledger.addressed_run (addressed : ledger.Addressed) {ops : List Op}
    (fit : ∀ op ∈ ops, op.RespondsByText) : (ledger.run ops).Addressed := by
  induction ops generalizing ledger with
  | nil => exact addressed
  | cons op rest ih =>
    exact ih (Ledger.addressed_perform addressed (fit op List.mem_cons_self)) fun other member =>
      fit other (List.mem_cons_of_mem _ member)

private theorem map_fst_byName (name : α → Text) (content : α → Document) (items : List α) :
    (Keyed.byName name content items).map Prod.fst =
      (items.map name).map Value.str := by
  simp [Keyed.byName]

private theorem idsIn_metas (shows : Shows desk ledger) :
    idsIn desk metaCollection = (ledger.forms.map Form.id).map Value.str := by
  rw [idsIn, shows.metas, map_fst_byName]

private theorem referenced_of_shows (shows : Shows desk ledger) (sound : ledger.Sound)
    (addressed : ledger.Addressed) : Referenced ledger.unfilled desk := by
  constructor
  · refine ⟨ledger.forms.map Form.id, sound.distinct, (List.filter_sublist.map _).subset,
      idsIn_metas shows, ?_⟩
    rw [idsIn, shows.configs, map_fst_byName, Ledger.ids_contents, List.filter_map]
    refine congrArg (fun forms : List Form => (forms.map Form.id).map Value.str) ?_
    refine List.filter_congr fun form member => ?_
    have empty := Ledger.mem_unfilled sound member
    cases code : form.code <;> simp [empty, code]
  · intro name listed row stored
    simp only [surveyCollections, List.mem_cons, List.not_mem_nil, or_false] at listed
    rcases listed with rfl | rfl | rfl
    · rw [shows.metas] at stored
      obtain ⟨form, _, rfl⟩ := List.mem_map.mp stored
      exact ⟨form.id, rfl, by rw [Form.named_metaDocument]; rfl⟩
    · rw [shows.configs] at stored
      obtain ⟨content, _, rfl⟩ := List.mem_map.mp stored
      exact ⟨content.id, rfl, by rw [Content.named_document]; rfl⟩
    · rw [shows.publications] at stored
      obtain ⟨publication, _, rfl⟩ := List.mem_map.mp stored
      exact ⟨publication.id, rfl, by rw [Publication.named_document]; rfl⟩
  · intro name listed row stored
    simp only [List.mem_cons, List.not_mem_nil, or_false] at listed
    rcases listed with rfl | rfl
    · rw [shows.configs] at stored
      obtain ⟨content, _, rfl⟩ := List.mem_map.mp stored
      rw [Content.named_document]
      rfl
    · rw [shows.publications] at stored
      obtain ⟨publication, _, rfl⟩ := List.mem_map.mp stored
      rw [Publication.named_document]
      rfl
  · intro id stored
    rw [idsIn, shows.publications, map_fst_byName, List.map_map] at stored
    obtain ⟨publication, member, rfl⟩ := List.mem_map.mp stored
    rw [idsIn_metas shows]
    exact List.mem_map_of_mem (sound.published publication member)
  · intro row stored
    rw [shows.responses] at stored
    obtain ⟨response, member, rfl⟩ := List.mem_map.mp stored
    obtain ⟨id, named⟩ := addressed response member
    refine ⟨id, ?_, ?_⟩
    · rw [Response.named_document, ← named]
      rfl
    · rw [idsIn_metas shows]
      exact List.mem_map_of_mem (sound.responded response member id named)

/-- A config document is found by its own id as it is found by the survey that it belongs to. -/
theorem firstConfig_by_id (shows : Shows desk ledger) (id : Value) :
    desk.store.findOne configCollection (having "_id" id) =
      desk.store.findOne configCollection (having "pageId" id) := by
  rw [firstConfig shows, Store.findOne, shows.configs, Keyed.contents_byName, having,
    Store.firstWhere_single plain_id Content.id Content.document fun content => by
      rw [Content.named_document]; rfl]
  simp only [Content.shown_document]
  rfl

/-- What the owner of a survey is shown of its content, and whether it can be published. -/
theorem answers_on_content {id : Text} {caller : Caller} {reply : Reply}
    (shows : Shows desk ledger) (sound : ledger.Sound)
    (answered : (Op.get (.str id) caller).answer desk = .ok reply) :
    ∃ value, reply = .value value ∧
      if id ∈ ledger.unfilled then value.get? "surveyConfRes" = some .null ∧
        (Op.publish (.str id) caller).answer desk = .error (withoutContent (.str id))
      else ∃ config, documentUnder? desk configCollection id = some config ∧
        value.get? "surveyConfRes" = some config.named ∧
        ∃ published, (Op.publish (.str id) caller).answer desk = .ok published := by
  rw [answer_eq shows sound, Ledger.perform, Ledger.withOwn] at answered
  rw [answer_eq shows sound, Ledger.perform, Ledger.withOwn]
  cases owned : ledger.own (.str id) caller with
  | error fault =>
    rw [owned] at answered
    cases answered
  | ok form =>
    obtain rfl : id = form.id := Value.str.inj (Ledger.eq_id_of_own rfl owned)
    have member := Ledger.mem_of_own owned
    have held : ledger.form? form.id = some form := Keyed.find?_of_mem sound.distinct member
    have named := Ledger.contentNamed_id sound member
    rw [owned] at answered
    simp only [Ledger.documents, Ledger.publish, named, Ledger.mem_unfilled sound member,
      configUnder?_eq shows sound, held, Option.bind_some] at answered ⊢
    cases answered
    refine ⟨_, rfl, ?_⟩
    cases code : form.code with
    | none =>
      rw [if_pos rfl, Form.content?, code]
      exact ⟨rfl, rfl⟩
    | some content =>
      rw [if_neg (Option.some_ne_none content), Form.content?, code]
      refine ⟨_, rfl, ?_, _, rfl⟩
      rw [Content.named_document]
      rfl

/-- As long as surveys are responded to by text, the documents refer to one another without a gap,
except that the surveys whose creation was cut short are without content. Whoever is shown a survey
is shown the content that is stored for it, and can publish it, or is shown that there is none, and
cannot; nobody else is told that a survey has no content. The content that is stored is found by its
id as well as by the survey. -/
theorem references_hold {clock : Int} {ops : List Op} (fit : ∀ op ∈ ops, op.RespondsByText) :
    let desk := Op.run ops (Desk.opened clock)
    Referenced (Op.halfMade ops clock) desk ∧
    (∀ (id : Text) (caller : Caller),
      (Op.publish (.str id) caller).answer desk = .error (withoutContent (.str id)) →
        ∃ reply, (Op.get (.str id) caller).answer desk = .ok reply) ∧
    (∀ (id : Text) (caller : Caller) (reply : Reply),
      (Op.get (.str id) caller).answer desk = .ok reply →
        ∃ value, reply = .value value ∧
          if id ∈ Op.halfMade ops clock then value.get? "surveyConfRes" = some .null ∧
            (Op.publish (.str id) caller).answer desk = .error (withoutContent (.str id))
          else ∃ config, documentUnder? desk configCollection id = some config ∧
            value.get? "surveyConfRes" = some config.named ∧
            ∃ published, (Op.publish (.str id) caller).answer desk = .ok published) ∧
    ∀ id : Value, desk.store.findOne configCollection (having "_id" id) =
      desk.store.findOne configCollection (having "pageId" id) := by
  intro desk
  have opened := Ledger.sound_opened clock
  have shows := shows_run (shows_opened clock) opened ops
  have sound := Ledger.sound_run opened ops
  have none : (Ledger.opened clock).Addressed := fun response member => nomatch member
  have addressed := Ledger.addressed_run none fit
  have halfMade : Op.halfMade ops clock = ((Ledger.opened clock).run ops).unfilled :=
    (Ledger.unfilled_run (shows_opened clock) opened ops).symm
  rw [halfMade]
  refine ⟨referenced_of_shows shows sound addressed, ?_, fun id caller reply answered =>
    answers_on_content shows sound answered, firstConfig_by_id shows⟩
  intro id caller told
  rw [answer_eq shows sound] at told ⊢
  simp only [Ledger.perform, Ledger.withOwn] at told ⊢
  rcases Ledger.own_text sound id caller with ⟨form, owned⟩ | absent | others
  · cases Ledger.eq_id_of_own rfl owned
    simp only [owned, Ledger.documents, Ledger.contentNamed_id sound (Ledger.mem_of_own owned)]
    exact ⟨_, rfl⟩
  · rw [absent] at told
    exact absurd (Except.error.inj told) (missing_ne_withoutContent _)
  · rw [others] at told
    exact absurd (Except.error.inj told) (notAllowed_ne_withoutContent _)

private def hana : Caller := ⟨"8", "hana"⟩

/-- Hana adds two surveys, publishes the second and removes it; somebody has responded to it. -/
private def hanasRun : List Op := [
  .add (.str "a") .null .null hana .null, .add (.str "b") .null .null hana .null,
  .publish (.str "id2") hana, .addResponse (.str "id2") (.object []), .delete (.str "id2") hana]

/-- The documents of Hana's surveys, and what she is shown of the first. -/
theorem references_hold_secondRemoved :
    let desk := Op.run hanasRun (Desk.opened 0)
    (∀ op ∈ hanasRun, op.RespondsByText) ∧
    idsIn desk responseCollection = [.str "id3"] ∧ Referenced [] desk ∧
    ∃ value config, (Op.get (.str "id1") hana).answer desk = .ok (.value value) ∧
      documentUnder? desk configCollection "id1" = some config ∧
      value.get? "surveyConfRes" = some config.named := by
  intro desk
  have fit : ∀ op ∈ hanasRun, op.RespondsByText := by simp [hanasRun, Op.RespondsByText]
  have shows := shows_run (shows_opened 0) (Ledger.sound_opened 0) hanasRun
  have sound := Ledger.sound_run (Ledger.sound_opened 0) hanasRun
  have whole : Op.halfMade hanasRun 0 = [] := by with_unfolding_all rfl
  obtain ⟨referenced, -, got, -⟩ := @references_hold 0 hanasRun fit
  rw [whole] at referenced got
  have responses : ((Ledger.opened 0).run hanasRun).responses.map Response.id = ["id3"] := by
    with_unfolding_all rfl
  obtain ⟨form, owned⟩ : ∃ form,
      ((Ledger.opened 0).run hanasRun).own (.str "id1") hana = .ok form :=
    ⟨_, by with_unfolding_all rfl⟩
  have held := Ledger.contentNamed_of_own sound rfl owned
  have answered := answer_eq shows sound (.get (.str "id1") hana)
  simp only [Ledger.perform, Ledger.withOwn, owned, Ledger.documents, held] at answered
  obtain ⟨value, same, shown⟩ := got "id1" hana _ answered
  rw [if_neg (List.not_mem_nil)] at shown
  obtain ⟨config, stored, shown, -⟩ := shown
  refine ⟨fit, ?_, referenced, value, config, answered.trans (congrArg _ same), stored, shown⟩
  rw [idsIn, shows.responses, map_fst_byName, responses]
  rfl

private theorem gap_left {code : Value} (given : codeFor (.str "a") .null code = code)
    (deep : ¬ Copyable 4 code) :
    let adds := Op.add (.str "a") .null .null hana code
    adds.answer (Desk.opened 0) = .error .tooDeep ∧
      idsIn (adds.after (Desk.opened 0)) metaCollection = [.str "id1"] ∧
      idsIn (adds.after (Desk.opened 0)) configCollection = [] := by
  intro adds
  have shows := shows_opened 0
  have sound := Ledger.sound_opened 0
  have performed : (Ledger.opened 0).perform adds = (.error .tooDeep,
      (Ledger.opened 0).added (.str "a") .null .null hana none) := if_neg (given.symm ▸ deep)
  have after := shows_after shows sound adds
  rw [performed] at after
  refine ⟨by rw [answer_eq shows sound, performed], idsIn_metas after, ?_⟩
  rw [idsIn, after.configs]
  rfl

/-- A survey that is added with content that is nested too deeply is left without any. -/
theorem deep_content_leaves_gap :
    let adds := Op.add (.str "a") .null .null hana (inLists .null 700)
    adds.answer (Desk.opened 0) = .error .tooDeep ∧
      idsIn (adds.after (Desk.opened 0)) metaCollection = [.str "id1"] ∧
      idsIn (adds.after (Desk.opened 0)) configCollection = [] :=
  gap_left rfl fun fits => absurd (copyable_inLists.mp fits) (by decide)

end SurveyDesk.Survey
