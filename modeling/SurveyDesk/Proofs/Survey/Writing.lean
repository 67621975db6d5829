import SurveyDesk.Proofs.Survey.Lookup

/-! Writing to a desk that shows a ledger. Every write that an operation makes turns the desk into
one that shows the ledger with one entry changed or added, and leaves all other collections as they
were. -/
namespace SurveyDesk.Survey
open Work

variable {desk : Desk} {ledger : Ledger}

private theorem untouched {name other : Text} (store : Store) (content : Collection)
    (different : other ≠ name) :
    (store.withCollection name content).collection other = store.collection other := by
  rw [Store.collection_withCollection, if_neg different]

private theorem put_congr (new : Form) {document : Form → Document} (sound : ledger.Sound)
    (member : form ∈ ledger.forms) (named : new.id = form.id)
    (same : document new = document form) :
    Keyed.byName Form.id document ledger.forms =
      Keyed.byName Form.id document (ledger.put new).forms := by
  simp only [Keyed.byName, Ledger.put, List.map_map]
  refine List.map_congr_left fun other within => ?_
  simp only [Function.comp_apply]
  split
  · rename_i here
    rw [sound.eq_of_id member within (here.trans named), named, same]
  · rfl

private theorem put_forms (new form : Form) (named : new.id = form.id) :
    (ledger.forms.map fun other => if other.id = form.id then new else other) =
      (ledger.put new).forms := by
  rw [← named, Ledger.put]

/-- Changes to a meta document that leave the config document alone. -/
theorem outcome_putMeta {form : Form} (new : Form) (changes : Entries) (shows : Shows desk ledger)
    (sound : ledger.Sound) (member : form ∈ ledger.forms) (named : new.id = form.id)
    (code : new.code = form.code)
    (overlaid : form.metaEntries.putAll changes = new.metaEntries) :
    ∃ after, (Work.update metaCollection (.str form.id) (.object changes)).outcome desk =
      (.ok (some (.object new.metaEntries)), after) ∧ Shows after (ledger.put new) := by
  have document : Keyed.putAll form.metaDocument (Document.ofEntries changes) =
      new.metaDocument := by
    rw [Form.metaDocument, Document.putAll_ofEntries, overlaid, Form.metaDocument]
  have updated := Store.update_byName new shows.metas sound.distinct member named document
  rw [put_forms new form named, Form.shown_metaDocument] at updated
  refine ⟨_, outcome_update_some updated, ?_⟩
  exact {
    metas := Store.collection_withCollection_self ..
    configs := (untouched _ _ (by decide)).trans
      (shows.configs.trans (by rw [Ledger.contents_put sound member named code]))
    publications := (untouched _ _ (by decide)).trans shows.publications
    responses := (untouched _ _ (by decide)).trans shows.responses
    snapshots := (untouched _ _ (by decide)).trans shows.snapshots
    time := shows.time
    idsGiven := shows.idsGiven }

/-- What a text names in the collection of config documents. -/
theorem isSome_config (shows : Shows desk ledger) (sound : ledger.Sound)
    (member : form ∈ ledger.forms) :
    (Keyed.get? (.str form.id) (desk.store.collection configCollection)).isSome =
      form.code.isSome := by
  rw [shows.configs, Keyed.get?_byName, Ledger.find?_contents sound,
    Keyed.find?_of_mem sound.distinct member, Option.bind_some, Form.content?, Option.isSome_map,
    Option.isSome_map]

/-- New content for a survey that has some. -/
theorem outcome_putConfig {form : Form} (shows : Shows desk ledger) (sound : ledger.Sound)
    (member : form ∈ ledger.forms) (has : form.code = some old) (code : Value) :
    ∃ document after, (Work.update configCollection (.str form.id)
        (.object [("code", code)])).outcome desk = (.ok document, after) ∧
      Shows after (ledger.put (form.rewritten code)) := by
  have held : ⟨form.id, old⟩ ∈ ledger.contents :=
    Ledger.mem_contents.mpr ⟨form, member, Form.content?_eq_some.mpr ⟨has, rfl⟩⟩
  have document : Keyed.putAll (Content.document ⟨form.id, old⟩)
      (Document.ofEntries [("code", code)]) = Content.document ⟨form.id, code⟩ := by
    rw [Content.document, Document.putAll_ofEntries]
    rfl
  have updated := Store.update_byName ⟨form.id, code⟩ shows.configs (Ledger.nodup_contents sound)
    held rfl document
  rw [← Ledger.contents_put_rewritten sound member] at updated
  refine ⟨_, _, outcome_update_some updated, ?_⟩
  exact {
    metas := (untouched _ _ (by decide)).trans
      (shows.metas.trans (put_congr (form.rewritten code) sound member rfl rfl))
    configs := Store.collection_withCollection_self ..
    publications := (untouched _ _ (by decide)).trans shows.publications
    responses := (untouched _ _ (by decide)).trans shows.responses
    snapshots := (untouched _ _ (by decide)).trans shows.snapshots
    time := shows.time
    idsGiven := shows.idsGiven }

/-- Where there is no content nothing is replaced. -/
theorem outcome_missConfig {form : Form} (shows : Shows desk ledger) (sound : ledger.Sound)
    (member : form ∈ ledger.forms) (bare : form.code = none) (code : Value) :
    (Work.update configCollection (.str form.id) (.object [("code", code)])).outcome desk =
      (.ok none, desk) := by
  refine outcome_update_none (Store.update_byName_of_absent _ shows.configs ?_)
  intro content within same
  obtain ⟨other, there, has⟩ := Ledger.mem_contents.mp within
  obtain ⟨code, named⟩ := Form.content?_eq_some.mp has
  rw [sound.eq_of_id member there (named.symm.trans same), bare] at code
  cases code

private theorem statuses_of (form : Form) (status : Status) (date : Int) :
    statusesWith (status.record date) ((Value.object form.metaEntries).get? "statusList") =
      .ok (.list ((form.past ++ [form.current] ++ [Milestone.mk status date]).map
        Milestone.toValue)) := by
  rw [List.map_append]
  rfl

/-- A reading of the clock. -/
theorem shows_read (shows : Shows desk ledger) :
    Shows { desk with time := desk.time.read } ledger.read :=
  { shows with time := congrArg Time.read shows.time }

theorem Shows.clock (shows : Shows desk ledger) : desk.clock = ledger.clock :=
  congrArg Time.seconds shows.time

theorem now_of_shows (shows : Shows desk ledger) : desk.now = ledger.now :=
  congrArg Time.inMillis shows.time

/-- A survey is moved into a state; what is given is its meta document as it is then. -/
theorem outcome_setStatus {form : Form} (shows : Shows desk ledger) (sound : ledger.Sound)
    (member : form ∈ ledger.forms) (status : Status) :
    ∃ after, (setStatus (.object form.metaEntries) status).outcome desk =
      (.ok (.object (form.moved status ledger.now).metaEntries), after) ∧
        Shows after (ledger.read.put (form.moved status ledger.now)) := by
  obtain ⟨after, updated, showsAfter⟩ := outcome_putMeta (form.moved status ledger.now)
    [("curStatus", status.record ledger.now),
      ("statusList", .list ((form.past ++ [form.current] ++ [Milestone.mk status ledger.now]).map
        Milestone.toValue)), ("updateDate", .int ledger.now)]
    (shows_read shows) (Ledger.sound_read sound) member rfl rfl rfl
  refine ⟨after, ?_, showsAfter⟩
  have id : (Value.object form.metaEntries).entry "_id" = .ok (.str form.id) := rfl
  simp only [setStatus, outcome_bind, outcome_now, outcome_ofOutcome, id, now_of_shows shows,
    statuses_of, updated]
  rfl

private theorem ne_nextId {items : List α} {name : α → Text}
    (given : ∀ item ∈ items, ledger.Gave (name item)) :
    ∀ item ∈ items, name item ≠ ledger.nextId :=
  fun item member same => ledger.not_gave_nextId (same ▸ given item member)

/-- The desk after a reading of the clock and a new id. -/
def stamped (desk : Desk) : Desk :=
  { desk with time := desk.time.read, idsGiven := desk.idsGiven + 1 }

theorem shows_stamped (shows : Shows desk ledger) :
    Shows (stamped desk) { ledger.read with idsGiven := ledger.idsGiven + 1 } :=
  { shows_read shows with idsGiven := congrArg (· + 1) shows.idsGiven }

/-- A new survey comes last. -/
theorem outcome_insertForm (shows : Shows desk ledger) (sound : ledger.Sound)
    (title remark questionType : Value) (caller : Caller) :
    ∃ after, (Work.insert metaCollection (metaRecord (.str ledger.nextId) title remark questionType
        caller ledger.now)).outcome (stamped desk) = (.ok (), after) ∧
      Shows after (ledger.added title remark questionType caller none) := by
  have showsStamped := shows_stamped shows
  have inserted := Store.insert_byName
    (Form.fresh ledger.nextId title remark questionType caller none ledger.now)
    showsStamped.metas rfl rfl (ne_nextId sound.forms)
  refine ⟨_, outcome_insert_ok (stamped desk) inserted, ?_⟩
  exact {
    metas := Store.collection_withCollection_self ..
    configs := (untouched _ _ (by decide)).trans
      (showsStamped.configs.trans (by
        rw [Ledger.contents_added, Option.map_none, Option.toList_none, List.append_nil]
        rfl))
    publications := (untouched _ _ (by decide)).trans showsStamped.publications
    responses := (untouched _ _ (by decide)).trans showsStamped.responses
    snapshots := (untouched _ _ (by decide)).trans showsStamped.snapshots
    time := showsStamped.time
    idsGiven := showsStamped.idsGiven }

/-- The content of a new survey comes last. -/
theorem outcome_insertContent (sound : ledger.Sound) (code : Value)
    (shows : Shows desk (ledger.added title remark questionType caller none)) :
    ∃ after, (Work.insert configCollection (configRecord (.str ledger.nextId) code)).outcome desk =
        (.ok (), after) ∧
      Shows after (ledger.added title remark questionType caller (some code)) := by
  have absent : ∀ other ∈ (ledger.added title remark questionType caller none).contents,
      other.id ≠ ledger.nextId := by
    rw [Ledger.contents_added]
    intro other within same
    obtain ⟨form, member, has⟩ := Ledger.mem_contents.mp
      (List.append_nil ledger.contents ▸ within)
    exact ne_nextId sound.forms form member ((Form.content?_eq_some.mp has).2.symm.trans same)
  have inserted := Store.insert_byName ⟨ledger.nextId, code⟩ shows.configs rfl rfl absent
  refine ⟨_, outcome_insert_ok desk inserted, ?_⟩
  exact {
    metas := (untouched _ _ (by decide)).trans (shows.metas.trans (by
      simp only [Keyed.byName, Ledger.added, List.map_append]
      rfl))
    configs := (Store.collection_withCollection_self ..).trans (by
      simp only [Ledger.contents_added]
      rw [Option.map_none, Option.toList_none, List.append_nil]
      rfl)
    publications := (untouched _ _ (by decide)).trans shows.publications
    responses := (untouched _ _ (by decide)).trans shows.responses
    snapshots := (untouched _ _ (by decide)).trans shows.snapshots
    time := shows.time
    idsGiven := shows.idsGiven }

/-- A new response comes last. -/
theorem outcome_insertResponse (shows : Shows desk ledger) (sound : ledger.Sound)
    (survey answers : Value) :
    ∃ after, (Work.insert responseCollection
        (.object (ledger.response survey answers).entries)).outcome (stamped desk) =
          (.ok (), after) ∧
      Shows after { ledger.read with
        responses := ledger.responses ++ [ledger.response survey answers]
        idsGiven := ledger.idsGiven + 1 } := by
  have showsStamped := shows_stamped shows
  have inserted := Store.insert_byName (ledger.response survey answers)
    showsStamped.responses rfl rfl (ne_nextId sound.responses)
  refine ⟨_, outcome_insert_ok (stamped desk) inserted, ?_⟩
  exact {
    metas := (untouched _ _ (by decide)).trans showsStamped.metas
    configs := (untouched _ _ (by decide)).trans showsStamped.configs
    publications := (untouched _ _ (by decide)).trans showsStamped.publications
    responses := Store.collection_withCollection_self ..
    snapshots := (untouched _ _ (by decide)).trans showsStamped.snapshots
    time := showsStamped.time
    idsGiven := showsStamped.idsGiven }

/-- A new history record comes last. -/
theorem outcome_insertSnapshot (shows : Shows desk ledger) (sound : ledger.Sound) (survey : Value)
    (type : HistoryType) (code : Value) (caller : Caller) :
    ∃ after, (Work.insert historyCollection
        (.object (ledger.snapshot survey type code caller).entries)).outcome (stamped desk) =
        (.ok (), after) ∧
      Shows after { ledger.read with
        snapshots := ledger.snapshots ++ [ledger.snapshot survey type code caller]
        idsGiven := ledger.idsGiven + 1 } := by
  have showsStamped := shows_stamped shows
  have inserted := Store.insert_byName (ledger.snapshot survey type code caller)
    showsStamped.snapshots rfl rfl (ne_nextId sound.snapshots)
  refine ⟨_, outcome_insert_ok (stamped desk) inserted, ?_⟩
  exact {
    metas := (untouched _ _ (by decide)).trans showsStamped.metas
    configs := (untouched _ _ (by decide)).trans showsStamped.configs
    publications := (untouched _ _ (by decide)).trans showsStamped.publications
    responses := (untouched _ _ (by decide)).trans showsStamped.responses
    snapshots := Store.collection_withCollection_self ..
    time := showsStamped.time
    idsGiven := showsStamped.idsGiven }

private theorem shows_published {publication : Publication} {publications : List Publication}
    (shows : Shows desk ledger)
    (left : (ledger.published publication).publications = publications) :
    Shows
      { desk with
        store := desk.store.withCollection publicationCollection
          (Keyed.byName Publication.id Publication.document publications) }
      (ledger.published publication) := by
  subst left
  exact {
    metas := (untouched _ _ (by decide)).trans shows.metas
    configs := (untouched _ _ (by decide)).trans shows.configs
    publications := Store.collection_withCollection_self ..
    responses := (untouched _ _ (by decide)).trans shows.responses
    snapshots := (untouched _ _ (by decide)).trans shows.snapshots
    time := shows.time
    idsGiven := shows.idsGiven }

/-- A publication replaces an older one of the same survey, or comes last. -/
theorem outcome_putPublication (shows : Shows desk ledger) (sound : ledger.Sound)
    (publication : Publication) :
    ∃ after, (do
        if (← Work.update publicationCollection (.str publication.id)
            (.object publication.entries)).isNone then
          Work.insert publicationCollection
            (.object publication.entries) : Work Unit).outcome desk = (.ok (), after) ∧
      Shows after (ledger.published publication) := by
  by_cases present : ledger.publications.any (·.id = publication.id)
  · obtain ⟨old, member, same⟩ := List.any_eq_true.mp present
    have named : publication.id = old.id := (decide_eq_true_eq.mp same).symm
    have document : Keyed.putAll old.document (Document.ofEntries publication.entries) =
        publication.document := by
      rw [Publication.document, Document.putAll_ofEntries]
      rfl
    have updated := Store.update_byName publication shows.publications sound.publishedOnce member
      named document
    rw [← named] at updated
    refine ⟨_, by rw [outcome_bind, outcome_update_some updated]; rfl, ?_⟩
    exact shows_published shows (by rw [Ledger.published, if_pos present])
  · have absent : ∀ other ∈ ledger.publications, other.id ≠ publication.id := by
      simpa using present
    have missed := Store.update_byName_of_absent publication.entries
      shows.publications absent
    have inserted := Store.insert_byName publication shows.publications rfl rfl absent
    refine ⟨_, by
      rw [outcome_bind, outcome_update_none missed]
      exact outcome_insert_ok _ inserted, ?_⟩
    exact shows_published shows (by rw [Ledger.published, if_neg present])

end SurveyDesk.Survey
