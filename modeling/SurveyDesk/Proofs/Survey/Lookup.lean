import SurveyDesk.Proofs.Survey.Integrity

/-! Reading a desk that shows a ledger is reading the ledger: the documents that an operation finds
are those of the entry that the ledger leads to, and the refusals are the same. -/
namespace SurveyDesk.Survey
open Work

/-! ## Documents of entries -/

theorem Form.metaEntries_distinct (form : Form) : form.metaEntries.keys.Nodup :=
  show (["_id", "title", "remark", "questionType", "owner", "ownerId", "curStatus", "statusList",
    "createDate", "updateDate"] : List Text).Nodup by decide

theorem Content.entries_distinct (content : Content) : content.entries.keys.Nodup :=
  show (["_id", "pageId", "code"] : List Text).Nodup by decide

theorem Publication.entries_distinct (publication : Publication) : publication.entries.keys.Nodup :=
  show (["_id", "pageId", "code", "publishDate"] : List Text).Nodup by decide

theorem Response.entries_distinct (response : Response) : response.entries.keys.Nodup :=
  show (["_id", "pageId", "data", "createDate"] : List Text).Nodup by decide

theorem Snapshot.entries_distinct (snapshot : Snapshot) : snapshot.entries.keys.Nodup :=
  show (["_id", "pageId", "type", "schema", "operator", "createDate"] : List Text).Nodup by decide

@[simp] theorem Form.named_metaDocument (form : Form) :
    form.metaDocument.named = .object form.metaEntries :=
  Document.named_ofEntries _

@[simp] theorem Content.named_document (content : Content) :
    content.document.named = .object content.entries :=
  Document.named_ofEntries _

@[simp] theorem Publication.named_document (publication : Publication) :
    publication.document.named = .object publication.entries :=
  Document.named_ofEntries _

@[simp] theorem Response.named_document (response : Response) :
    response.document.named = .object response.entries :=
  Document.named_ofEntries _

@[simp] theorem Snapshot.named_document (snapshot : Snapshot) :
    snapshot.document.named = .object snapshot.entries :=
  Document.named_ofEntries _

@[simp] theorem Form.shown_metaDocument (form : Form) :
    form.metaDocument.shown = .object form.metaEntries :=
  Document.shown_ofEntries form.metaEntries_distinct

@[simp] theorem Content.shown_document (content : Content) :
    content.document.shown = .object content.entries :=
  Document.shown_ofEntries content.entries_distinct

@[simp] theorem Publication.shown_document (publication : Publication) :
    publication.document.shown = .object publication.entries :=
  Document.shown_ofEntries publication.entries_distinct

@[simp] theorem Response.shown_document (response : Response) :
    response.document.shown = .object response.entries :=
  Document.shown_ofEntries response.entries_distinct

@[simp] theorem Snapshot.shown_document (snapshot : Snapshot) :
    snapshot.document.shown = .object snapshot.entries :=
  Document.shown_ofEntries snapshot.entries_distinct

theorem plain_id : Store.PlainKey "_id" := ⟨by decide, by decide⟩

theorem plain_pageId : Store.PlainKey "pageId" := ⟨by decide, by decide⟩

theorem Status.name_injective : Function.Injective Status.name := by
  intro first second same
  cases first <;> cases second <;> first | rfl | exact absurd same (by decide)

/-! ## The content of a survey -/

theorem Form.content?_eq_some {form : Form} {content : Content} :
    form.content? = some content ↔ form.code = some content.code ∧ content.id = form.id := by
  rw [Form.content?, Option.map_eq_some_iff]
  constructor
  · rintro ⟨code, there, rfl⟩
    exact ⟨there, rfl⟩
  · rintro ⟨there, same⟩
    exact ⟨content.code, there, Content.ext same.symm rfl⟩

@[simp] theorem Form.code_content? (form : Form) : form.content?.map Content.code = form.code := by
  rw [Form.content?, Option.map_map]
  exact Option.map_id'

namespace Ledger

variable {ledger : Ledger} {form : Form}

theorem mem_contents {content : Content} :
    content ∈ ledger.contents ↔ ∃ form ∈ ledger.forms, form.content? = some content :=
  List.mem_filterMap

theorem find?_contents (sound : ledger.Sound) (id : Text) :
    (ledger.contents.find? fun content => content.id = id) =
      (ledger.forms.find? fun form => form.id = id).bind Form.content? :=
  Keyed.find?_parts (fun _ _ there => (Form.content?_eq_some.mp there).2) sound.distinct id

/-- The id of a survey names its content. -/
theorem contentNamed_id (sound : ledger.Sound) (member : form ∈ ledger.forms) :
    ledger.contentNamed (.str form.id) = .ok form.content? := by
  rw [contentNamed, Store.firstNamed_text, find?_contents sound,
    Keyed.find?_of_mem sound.distinct member, Option.bind_some]

/-- Of what an id that can be a key names the content is its own. -/
theorem contentNamed_of_own {id : Value} (sound : ledger.Sound) (key : id.isKey = true)
    (owned : ledger.own id caller = .ok form) : ledger.contentNamed id = .ok form.content? := by
  rw [eq_id_of_own key owned]
  exact contentNamed_id sound (mem_of_own owned)

/-- The contents are those of the surveys that have any, in their order. -/
theorem contents_eq (ledger : Ledger) :
    ledger.contents = (ledger.forms.filter (·.code.isSome)).map fun form =>
      ⟨form.id, form.code.getD .null⟩ := by
  rw [contents]
  induction ledger.forms with
  | nil => rfl
  | cons form rest ih =>
    cases has : form.code with
    | none =>
      rw [List.filterMap_cons_none (by rw [Form.content?, has]; rfl),
        List.filter_cons_of_neg (by simp [has]), ih]
    | some code =>
      rw [List.filterMap_cons_some (by rw [Form.content?, has]; rfl),
        List.filter_cons_of_pos (by simp [has]), List.map_cons, ih, has, Option.getD_some]

theorem ids_contents (ledger : Ledger) :
    ledger.contents.map Content.id = (ledger.forms.filter (·.code.isSome)).map Form.id := by
  rw [contents_eq, List.map_map]
  rfl

theorem contents_put (sound : ledger.Sound) (member : form ∈ ledger.forms) {new : Form}
    (named : new.id = form.id) (same : new.code = form.code) :
    (ledger.put new).contents = ledger.contents := by
  rw [contents, contents, put, List.filterMap_map]
  refine List.filterMap_congr fun other within => ?_
  rw [Function.comp_apply]
  split
  · rename_i here
    rw [sound.eq_of_id member within (here.trans named), Form.content?, Form.content?, named, same]
  · rfl

/-- Other content takes the place of what was there. -/
theorem contents_put_rewritten (sound : ledger.Sound) (member : form ∈ ledger.forms)
    (code : Value) :
    (ledger.put (form.rewritten code)).contents = ledger.contents.map fun other =>
      if other.id = form.id then ⟨form.id, code⟩ else other := by
  rw [contents, contents, put, List.filterMap_map, List.map_filterMap]
  refine List.filterMap_congr fun other within => ?_
  rw [Function.comp_apply]
  have named : (form.rewritten code).id = form.id := rfl
  rw [named, Form.content?]
  split
  · rename_i here
    rw [sound.eq_of_id member within here]
    cases has : form.code <;> simp [Form.content?, Form.rewritten, has]
  · rename_i elsewhere
    cases has : other.code <;> simp [Form.content?, has, elsewhere]

theorem contents_added (ledger : Ledger) (title remark questionType : Value) (caller : Caller)
    (code : Option Value) :
    (ledger.added title remark questionType caller code).contents =
      ledger.contents ++ (code.map fun code => ⟨ledger.nextId, code⟩).toList := by
  rw [contents, added, List.filterMap_append]
  cases code <;> rfl

theorem nodup_contents (sound : ledger.Sound) : (ledger.contents.map Content.id).Nodup := by
  rw [ids_contents]
  exact sound.distinct.sublist (List.filter_sublist.map _)

end Ledger

/-! ## Finding what an id names -/

variable {desk : Desk} {ledger : Ledger}

theorem firstMeta (shows : Shows desk ledger) (id : Value) :
    desk.store.findOne metaCollection (having "_id" id) =
      (Store.firstNamed Form.id id ledger.forms).map
        (Option.map fun form => .object form.metaEntries) := by
  rw [Store.findOne, shows.metas, Keyed.contents_byName, having, Store.firstWhere_single plain_id
    Form.id Form.metaDocument fun form => by rw [Form.named_metaDocument]; rfl]
  simp only [Form.shown_metaDocument]

theorem firstConfig (shows : Shows desk ledger) (id : Value) :
    desk.store.findOne configCollection (having "pageId" id) =
      (ledger.contentNamed id).map (Option.map fun content => .object content.entries) := by
  rw [Store.findOne, shows.configs, Keyed.contents_byName, having, Store.firstWhere_single
    plain_pageId Content.id Content.document fun content => by rw [Content.named_document]; rfl]
  simp only [Content.shown_document]
  rfl

theorem firstPublication (shows : Shows desk ledger) (id : Value) :
    desk.store.findOne publicationCollection (having "pageId" id) =
      (Store.firstNamed Publication.id id ledger.publications).map
        (Option.map fun publication => .object publication.entries) := by
  rw [Store.findOne, shows.publications, Keyed.contents_byName, having, Store.firstWhere_single
    plain_pageId Publication.id Publication.document fun publication => by
      rw [Publication.named_document]; rfl]
  simp only [Publication.shown_document]

private theorem status_entry (form : Form) :
    (do (← (Value.object form.metaEntries).entry "curStatus").entry "status" : Except Fault Value) =
      .ok (.str form.current.status.name) := rfl

theorem equals_removed (form : Form) :
    (Value.str form.current.status.name).equals (.str Status.removed.name) = form.isRemoved := by
  rw [Value.text_equals_text, Form.isRemoved]
  exact decide_eq_decide.mpr Status.name_injective.eq_iff

theorem outcome_findMeta (shows : Shows desk ledger) (id : Value) :
    (findMeta id).outcome desk =
      ((ledger.seek id).map fun form => .object form.metaEntries, desk) := by
  simp only [findMeta, outcome_bind, outcome_findOne, firstMeta shows, Ledger.seek]
  cases Store.firstNamed Form.id id ledger.forms with
  | error fault => rfl
  | ok named =>
    cases named with
    | none => rfl
    | some form =>
      simp only [Except.map, Option.map, outcome_ofOutcome, outcome_bind, status_entry,
        equals_removed]
      cases form.isRemoved <;> rfl

theorem outcome_findOwnMeta (shows : Shows desk ledger) (id : Value) (caller : Caller) :
    (findOwnMeta id caller).outcome desk =
      ((ledger.own id caller).map fun form => .object form.metaEntries, desk) := by
  simp only [findOwnMeta, outcome_bind, outcome_findMeta shows, Ledger.own]
  cases ledger.seek id with
  | error fault => rfl
  | ok form =>
    have owner : (Value.object form.metaEntries).entry "ownerId" = .ok (.str form.owner.id) := rfl
    simp only [Except.map, outcome_ofOutcome, owner, Value.text_equals_text, decide_eq_true_eq]
    by_cases mine : form.owner.id = caller.id
    · simp only [if_pos mine]
      rfl
    · simp only [if_neg mine]
      rfl

/-- Work on a survey that the ledger does not give the caller stops at once. -/
theorem outcome_not_own (shows : Shows desk ledger) {id : Value}
    (owned : ledger.own id caller = .error fault) (next : Value → Work α) :
    (findOwnMeta id caller >>= next).outcome desk = (.error fault, desk) := by
  rw [outcome_bind, outcome_findOwnMeta shows, owned]
  rfl

end SurveyDesk.Survey
