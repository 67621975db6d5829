import SurveyDesk.Proofs.Survey.Writing

/-! Every operation at a desk that shows a ledger answers what the operation on the ledger answers
and leaves a desk that shows the ledger as it is then. So all reachable desks show ledgers that keep
the rules, and what holds of ledgers holds of desks. -/
namespace SurveyDesk.Survey
open Work

/-- The work at a desk comes to an answer and a ledger that the desk shows then. -/
def Meets (work : Work Reply) (desk : Desk) (answer : Except Fault Reply × Ledger) : Prop :=
  (work.outcome desk).1 = answer.1 ∧ Shows (work.outcome desk).2 answer.2

variable {desk : Desk} {ledger : Ledger}

private theorem meets_of_eq {work : Work Reply} {after : Desk} {left : Ledger}
    {answer : Except Fault Reply} (same : work.outcome desk = (answer, after))
    (shows : Shows after left) : Meets work desk (answer, left) :=
  ⟨congrArg Prod.fst same, by rw [same]; exact shows⟩

/-- Work on a caller's own survey is refused where the ledger has none. -/
theorem meets_withOwn {id : Value} {next : Value → Work Reply}
    {work : Form → Except Fault Reply × Ledger} (shows : Shows desk ledger)
    (owned : ∀ form, ledger.own id caller = .ok form →
      Meets (next (.object form.metaEntries)) desk (work form)) :
    Meets (findOwnMeta id caller >>= next) desk (ledger.withOwn id caller work) := by
  cases found : ledger.own id caller with
  | error fault =>
    rw [Ledger.withOwn, found]
    exact meets_of_eq (outcome_not_own shows found next) shows
  | ok form =>
    rw [Ledger.withOwn, found]
    have step : (findOwnMeta id caller >>= next).outcome desk =
        (next (.object form.metaEntries)).outcome desk := by
      rw [outcome_bind, outcome_findOwnMeta shows, found]
      rfl
    rw [Meets, step]
    exact owned form found

private theorem id_of_shows (shows : Shows desk ledger) :
    (Value.str ("id" ++ toString (desk.idsGiven + 1) : String)) = .str ledger.nextId := by
  rw [shows.idsGiven]
  rfl

/-! ## Writing operations -/

/-- A new survey takes two calls more to copy its content than the content itself. -/
theorem copyable_config (calls : Nat) (id : Text) (code : Value) :
    Copyable calls (configRecord (.str id) code) ↔ Copyable (calls + 2) code := by
  have least := two_le_copyCalls code
  simp only [Copyable, configRecord, copyCalls, copyCalls.entriesCalls]
  omega

/-- There is room to copy a record if there is for its content. -/
theorem copyable_snapshot {snapshot : Snapshot} {calls : Nat} {id : Text}
    (named : snapshot.survey = .str id) (room : calls + 8 ≤ callRoom) :
    Copyable calls (.object snapshot.entries) ↔ Copyable (calls + 2) snapshot.code := by
  have operator : Copyable (calls + 2) snapshot.operator.toValue := by
    simp [Copyable, Caller.toValue, copyCalls, copyCalls.entriesCalls]
    omega
  have text (text : Text) : Copyable (calls + 2) (.str text) := by
    simp only [Copyable, copyCalls]
    omega
  have date : Copyable (calls + 2) (.int snapshot.date) := by
    simp only [Copyable, copyCalls]
    omega
  have least : calls + 3 ≤ callRoom := by omega
  simp [copyable_object, Snapshot.entries, named, operator, text, date, least]

theorem meets_add (shows : Shows desk ledger) (sound : ledger.Sound) (calls : Nat)
    (title remark questionType : Value) (caller : Caller) (code : Value) :
    Meets (.value <$> addWithin calls title remark questionType caller code) desk
      (ledger.add calls title remark questionType caller code) := by
  obtain ⟨between, inserted, showsBetween⟩ :=
    outcome_insertForm shows sound title remark questionType caller
  have split : addWithin calls title remark questionType caller code = (do
      let date ← now
      let id ← freshId
      insert metaCollection (metaRecord id title remark questionType caller date)
      insertCopy calls configCollection (configRecord id (codeFor title questionType code))
      return .object [("pageId", id)]) := by
    cases code <;> rfl
  have start : (addWithin calls title remark questionType caller code).outcome desk =
      (do insertCopy calls configCollection (configRecord (.str ledger.nextId)
            (codeFor title questionType code))
          return .object [("pageId", .str ledger.nextId)] : Work Value).outcome between := by
    rw [stamped] at inserted
    simp only [split, outcome_bind, outcome_now, outcome_freshId, now_of_shows shows,
      id_of_shows shows, inserted]
  rw [Ledger.add, Meets, outcome_map, start, outcome_bind]
  by_cases fits : Copyable (calls + 2) (codeFor title questionType code)
  · obtain ⟨after, stored, showsAfter⟩ :=
      outcome_insertContent sound (codeFor title questionType code) showsBetween
    rw [if_pos fits, outcome_insertCopy_ok ((copyable_config ..).mpr fits), stored]
    exact ⟨rfl, showsAfter⟩
  · rw [if_neg fits, outcome_insertCopy_tooDeep (mt (copyable_config ..).mp fits)]
    exact ⟨rfl, showsBetween⟩

theorem meets_create (shows : Shows desk ledger) (sound : ledger.Sound)
    (title remark questionType method source : Value) (caller : Caller) :
    Meets (Op.create title remark questionType method source caller).perform desk
      (ledger.perform (.create title remark questionType method source caller)) := by
  simp only [Op.perform, create, Ledger.perform]
  split
  · simp only [map_bind]
    refine meets_withOwn shows fun form owned => ?_
    have questions : (Value.object form.metaEntries).entry "questionType" =
        .ok form.questionType := rfl
    have added := meets_add shows sound 3 title remark form.questionType caller
    rw [Ledger.copy]
    cases named : ledger.contentNamed source with
    | error fault =>
      refine meets_of_eq ?_ shows
      rw [outcome_bind, outcome_findOne, firstConfig shows, named]
      rfl
    | ok content =>
      cases content with
      | none =>
        simpa only [Meets, outcome_bind, outcome_findOne, firstConfig shows, named, Except.map,
          Option.map_none, Option.getD_none, outcome_pure, questions, outcome_ofOutcome, map_bind]
          using added .null
      | some content =>
        have code : (Value.object content.entries).entry "code" = .ok content.code := rfl
        simpa only [Meets, outcome_bind, outcome_findOne, firstConfig shows, named, Except.map,
          Option.map_some, Option.getD_some, outcome_ofOutcome, code, questions, map_bind]
          using added content.code
  · exact meets_add shows sound 3 title remark questionType caller .null

theorem meets_update (shows : Shows desk ledger) (sound : ledger.Sound)
    (id title remark : Value) (caller : Caller) :
    Meets (Op.update id title remark caller).perform desk
      (ledger.perform (.update id title remark caller)) := by
  simp only [Op.perform, update, Ledger.perform, map_bind]
  refine meets_withOwn shows fun form owned => ?_
  cases key : id.isKey with
  | false =>
    rw [Ledger.retitle, key]
    refine meets_of_eq ?_ (shows_read shows)
    simp only [outcome_bind, outcome_now, outcome_update_not_key key]
  | true =>
    obtain rfl := Ledger.eq_id_of_own key owned
    obtain ⟨after, updated, showsAfter⟩ := outcome_putMeta
      (form.retitled title remark ledger.now)
      [("title", title), ("remark", remark), ("updateDate", .int ledger.now)]
      (shows_read shows) (Ledger.sound_read sound) (Ledger.mem_of_own owned) rfl rfl rfl
    rw [Ledger.retitle, key]
    refine meets_of_eq ?_ showsAfter
    simp only [outcome_bind, outcome_now, now_of_shows shows, updated]
    rfl

theorem meets_delete (shows : Shows desk ledger) (sound : ledger.Sound)
    (id : Value) (caller : Caller) :
    Meets (Op.delete id caller).perform desk (ledger.perform (.delete id caller)) := by
  simp only [Op.perform, delete, Ledger.perform, map_bind]
  refine meets_withOwn shows fun form owned => ?_
  obtain ⟨after, moved, showsAfter⟩ :=
    outcome_setStatus shows sound (Ledger.mem_of_own owned) .removed
  refine meets_of_eq ?_ showsAfter
  simp only [outcome_bind, moved]
  rfl

/-- A survey that is put in place twice is put in place as it comes second. -/
theorem put_put (ledger : Ledger) (named : second.id = first.id) :
    (ledger.put first).put second = ledger.put second := by
  simp only [Ledger.put, List.map_map, Ledger.mk.injEq, and_true]
  refine List.map_congr_left fun other _ => ?_
  simp only [Function.comp_apply, named]
  by_cases here : other.id = first.id
  · simp only [if_pos here, if_true]
  · simp only [if_neg here]

theorem mem_put (member : form ∈ ledger.forms) (named : new.id = form.id) :
    new ∈ (ledger.put new).forms :=
  List.mem_map.mpr ⟨form, member, by rw [if_pos named.symm]⟩

theorem put_self (sound : ledger.Sound) (member : form ∈ ledger.forms) :
    ledger.put form = ledger := by
  have same : (ledger.forms.map fun other => if other.id = form.id then form else other) =
      ledger.forms := by
    refine (List.map_congr_left fun other within => ?_).trans (List.map_id _)
    split
    · rename_i here
      exact (sound.eq_of_id member within here).symm
    · rfl
  rw [Ledger.put, same]

/-- What saving content comes to before the survey is moved. -/
private theorem outcome_saved (shows : Shows desk ledger) (sound : ledger.Sound)
    (member : form ∈ ledger.forms) (fits : ¬ (form.code.isSome ∧ ¬ Copyable 4 code)) :
    ∃ document after, (Work.updateCopy 2 configCollection (.str form.id)
        (.object [("code", code)])).outcome desk = (.ok document, after) ∧
      Shows after (ledger.put (form.rewritten code)) := by
  rw [outcome_updateCopy, isSome_config shows sound member,
    if_neg fun deep => fits (deep.imp_right (mt copyable_entry.mpr))]
  cases has : form.code with
  | none =>
    have same : form.rewritten code = form := by
      rw [Form.rewritten, has, Option.map_none, ← has]
    rw [same, put_self sound member]
    exact ⟨none, desk, outcome_missConfig shows sound member has code, shows⟩
  | some old => exact outcome_putConfig shows sound member has code

theorem meets_saveConfig (shows : Shows desk ledger) (sound : ledger.Sound)
    (id code : Value) (caller : Caller) :
    Meets (Op.saveConfig id code caller).perform desk
      (ledger.perform (.saveConfig id code caller)) := by
  simp only [Op.perform, saveConfig, Ledger.perform, map_bind]
  refine meets_withOwn shows fun form owned => ?_
  rw [Ledger.save]
  cases key : id.isKey with
  | false =>
    refine meets_of_eq ?_ shows
    have nothing : (Keyed.get? id (desk.store.collection configCollection)).isSome = false := by
      rw [shows.configs, Keyed.get?_byName_not_key key]
      rfl
    rw [outcome_bind, outcome_updateCopy, nothing]
    simp only [Bool.false_eq_true, false_and, if_false, outcome_update_not_key key]
  | true =>
    obtain rfl := Ledger.eq_id_of_own key owned
    have member := Ledger.mem_of_own owned
    rw [if_pos rfl]
    by_cases deep : form.code.isSome ∧ ¬ Copyable 4 code
    · rw [if_pos deep]
      refine meets_of_eq ?_ shows
      rw [outcome_bind, outcome_updateCopy, isSome_config shows sound member,
        if_pos (deep.imp_right (mt copyable_entry.mp))]
    · rw [if_neg deep]
      obtain ⟨document, between, written, showsBetween⟩ := outcome_saved shows sound member deep
      -- the meta document that was read first is still that of the survey with its new content
      obtain ⟨after, moved, showsAfter⟩ := outcome_setStatus showsBetween
        (Ledger.sound_put sound (form.rewritten code) (Ledger.fits_rewritten deep))
        (mem_put member rfl) .editing
      have same : (form.rewritten code).metaEntries = form.metaEntries := rfl
      have twice : (ledger.put (form.rewritten code)).read.put
          ((form.rewritten code).moved .editing ledger.now) =
          ledger.read.put ((form.rewritten code).moved .editing ledger.now) :=
        put_put ledger.read rfl
      refine meets_of_eq ?_ (twice ▸ showsAfter)
      simp only [outcome_bind, written, ← same, moved]
      rfl

/-- Where a record is changed or else added, what comes next is done with the record in place. -/
private theorem outcome_recorded {α β : Type} {before between : Desk}
    {name : Text} {id record : Value} {next : Work α} {shape : α → β}
    (written : (do
      if (← Work.update name id record).isNone then
        Work.insert name record : Work Unit).outcome before = (.ok (), between)) :
    (Work.update name id record >>= fun updated => shape <$>
      if updated.isNone then Work.insert name record >>= fun _ => next else next).outcome before =
        (shape <$> next).outcome between := by
  rw [outcome_bind] at written ⊢
  generalize (Work.update name id record).outcome before = step at written ⊢
  obtain ⟨updated, middle⟩ := step
  cases updated with
  | error fault => cases written
  | ok document =>
    cases document with
    | none =>
      simp only [Option.isNone_none, if_true] at written ⊢
      rw [map_bind, outcome_bind, written]
    | some document =>
      cases written
      rfl

theorem meets_publish (shows : Shows desk ledger) (sound : ledger.Sound)
    (id : Value) (caller : Caller) :
    Meets (Op.publish id caller).perform desk (ledger.perform (.publish id caller)) := by
  simp only [Op.perform, publish, Ledger.perform, map_bind]
  refine meets_withOwn shows fun form owned => ?_
  have found : (findOne configCollection (having "pageId" id)).outcome desk =
      ((ledger.contentNamed id).map (Option.map fun content => .object content.entries), desk) := by
    rw [outcome_findOne, firstConfig shows]
  rw [Ledger.publish]
  cases named : ledger.contentNamed id with
  | error fault =>
    rw [named] at found
    refine meets_of_eq ?_ shows
    rw [outcome_bind, found]
    rfl
  | ok content =>
  rw [named] at found
  cases content with
  | none =>
    refine meets_of_eq ?_ shows
    rw [outcome_bind, found]
    rfl
  | some content =>
    have code : (Value.object content.entries).entry "code" = .ok content.code := rfl
    cases key : id.isKey with
    | false =>
      refine meets_of_eq ?_ (shows_read shows)
      simp only [outcome_bind, found, Except.map, Option.map_some, map_bind, outcome_ofOutcome,
        code, outcome_now, outcome_update_not_key key]
    | true =>
      obtain rfl := Ledger.eq_id_of_own key owned
      have member := Ledger.mem_of_own owned
      have read := Ledger.sound_read sound
      obtain ⟨between, written, showsBetween⟩ :=
        outcome_putPublication (shows_read shows) read ⟨form.id, content.code, ledger.now⟩
      obtain ⟨after, moved, showsAfter⟩ := outcome_setStatus showsBetween
        (Ledger.sound_published read ⟨form.id, content.code, ledger.now⟩
          (Ledger.mem_ids_of_mem member)) member .published
      refine meets_of_eq ?_ showsAfter
      rw [outcome_bind, found]
      simp only [Except.map, Option.map_some, map_bind]
      rw [outcome_bind, outcome_ofOutcome, code]
      dsimp only
      rw [outcome_bind, outcome_now, now_of_shows shows]
      dsimp only
      refine (outcome_recorded written).trans ?_
      rw [map_bind, outcome_bind, moved]
      rfl

theorem meets_get (shows : Shows desk ledger) (id : Value) (caller : Caller) :
    Meets (Op.get id caller).perform desk (ledger.perform (.get id caller)) := by
  simp only [Op.perform, get, Ledger.perform, map_bind]
  refine meets_withOwn shows fun form owned => ?_
  refine meets_of_eq ?_ shows
  rw [outcome_bind, outcome_findOne, firstConfig shows, Ledger.documents]
  cases ledger.contentNamed id with
  | error fault => rfl
  | ok content => cases content <;> rfl

/-- What is recorded with a new id takes its date from a reading of the clock, and is kept if there
is room to copy it. -/
private theorem meets_record {name : Text} {taken : Ledger} (record : Int → Value)
    (shows : Shows desk ledger)
    (inserted : ∃ after, (insert name (record ledger.now)).outcome (stamped desk) =
      (.ok (), after) ∧ Shows after taken) :
    Meets (do
        insertCopy 2 name (record (← now))
        return .value (.object [("_id", .str ledger.nextId)]))
      { desk with idsGiven := desk.idsGiven + 1 }
      (if Copyable 2 (record ledger.now) then
        (.ok (.value (.object [("_id", .str ledger.nextId)])), taken)
      else (.error .tooDeep, { ledger.read with idsGiven := ledger.idsGiven + 1 })) := by
  obtain ⟨after, made, showsAfter⟩ := inserted
  have date : Desk.now { desk with idsGiven := desk.idsGiven + 1 } = ledger.now :=
    congrArg Time.inMillis shows.time
  rw [Meets, outcome_bind, outcome_now, date]
  change (Work.outcome _ (stamped desk)).1 = _ ∧ Shows (Work.outcome _ (stamped desk)).2 _
  rw [outcome_bind]
  by_cases fits : Copyable 2 (record ledger.now)
  · rw [if_pos fits, outcome_insertCopy_ok fits, made]
    exact ⟨rfl, showsAfter⟩
  · rw [if_neg fits, outcome_insertCopy_tooDeep fits]
    exact ⟨rfl, shows_stamped shows⟩

theorem meets_addResponse (shows : Shows desk ledger) (sound : ledger.Sound)
    (id answers : Value) :
    Meets (Op.addResponse id answers).perform desk (ledger.perform (.addResponse id answers)) := by
  simp only [Op.perform, addResponse, Ledger.perform, Ledger.addResponse, map_bind, map_pure]
  cases found : ledger.seek id with
  | error fault =>
    refine meets_of_eq ?_ shows
    rw [outcome_bind, outcome_findMeta shows, found]
    rfl
  | ok form =>
    have record : responseRecord (.str ledger.nextId) id answers ledger.now =
      .object (ledger.response id answers).entries := rfl
    have recorded := meets_record (responseRecord (.str ledger.nextId) id answers) shows
      (outcome_insertResponse shows sound id answers)
    simpa only [Meets, outcome_bind, outcome_findMeta shows, found, Except.map, outcome_freshId,
      id_of_shows shows, record] using recorded

theorem meets_addHistory (shows : Shows desk ledger) (sound : ledger.Sound)
    (survey code type : Value) (caller : Caller) :
    Meets (Op.addHistory survey code type caller).perform desk
      (ledger.perform (.addHistory survey code type caller)) := by
  simp only [Op.perform, addHistory, Ledger.perform, Ledger.addHistory, map_bind, map_pure]
  cases read : HistoryType.ofValue type with
  | error fault =>
    have given : Shows { desk with idsGiven := desk.idsGiven + 1 }
        { ledger with idsGiven := ledger.idsGiven + 1 } :=
      { shows with idsGiven := congrArg (· + 1) shows.idsGiven }
    refine meets_of_eq ?_ given
    simp only [outcome_bind, outcome_freshId, outcome_ofOutcome]
  | ok type =>
    have record : historyRecord (.str ledger.nextId) survey type code caller ledger.now =
      .object (ledger.snapshot survey type code caller).entries := rfl
    have recorded := meets_record (historyRecord (.str ledger.nextId) survey type code caller) shows
      (outcome_insertSnapshot shows sound survey type code caller)
    simpa only [Meets, outcome_bind, outcome_freshId, id_of_shows shows, outcome_ofOutcome, record]
      using recorded

/-! ## Reading operations -/

/-- The scope of a list is decided by the owner and the current state alone. -/
theorem holds_listScope (form : Form) (caller : Caller) :
    Predicate.holds form.metaDocument.named (listScope caller) = .ok (form.isListedFor caller) := by
  have owner : (Value.object form.metaEntries).at? "ownerId" = some (.str form.owner.id) := rfl
  have status : (Value.object form.metaEntries).at? "curStatus.status" =
      some (.str form.current.status.name) := rfl
  have differs : Predicate.expectedHolds (some (.str form.current.status.name))
      (Predicate.Operator.notEqual.fragment (.str Status.removed.name)) =
      .ok !form.isRemoved := by
    rw [← equals_removed]
    simp only [Predicate.Operator.fragment, Predicate.expectedHolds]
    rfl
  have apart : "ownerId" ≠ Predicate.orKey ∧ "curStatus.status" ≠ Predicate.orKey := by decide
  rw [Form.named_metaDocument]
  simp only [listScope, Predicate.holds, Predicate.holdsAll, if_neg apart.1, if_neg apart.2, owner,
    status, differs, Predicate.expectedHolds, Value.text_equals_text, ok_bind, Form.isListedFor,
    pure_eq_ok]
  by_cases mine : form.owner.id = caller.id <;> cases form.isRemoved <;> simp [mine]

/-- A list is read off the caller's own surveys that are not removed. -/
theorem outcome_list (shows : Shows desk ledger) (number size : Int) (predicate : Value)
    (order : SortSpec) (caller : Caller) :
    (Op.list number size predicate order caller).perform.outcome desk =
      (ledger.list number size predicate order caller, desk) := by
  simp only [Op.perform, list, map_bind, outcome_bind, outcome_get, outcome_ofOutcome,
    Store.find_eq_pageOf, shows.metas, Keyed.contents_byName, Store.pageOf,
    Store.hits_scoped (holds_listScope · caller), Ledger.list, Ledger.listedFor]
  generalize Except.mapError listFault _ = page
  cases page <;> rfl

theorem meets_list (shows : Shows desk ledger) (number size : Int) (predicate : Value)
    (order : SortSpec) (caller : Caller) :
    Meets (Op.list number size predicate order caller).perform desk
      (ledger.perform (.list number size predicate order caller)) :=
  meets_of_eq (outcome_list shows number size predicate order caller) shows

/-- The part of showing responses that follows the choice of a config. -/
private theorem outcome_sheet (shows : Shows desk ledger) (id : Value) (config : Option Value)
    (hide : Bool) (number size : Int) :
    (do
      let columns ← ofOutcome (columnsOfConfig config)
      let secret ← ofOutcome (secretFields columns)
      let page ← find responseCollection (having "pageId" id) newestFirst number size none
      let rows ← ofOutcome (page.documents.mapM (rowOf hide secret columns))
      Reply.sheet <$> pure ⟨page.total, columns, rows⟩ : Work Reply).outcome desk =
    (do
      let columns ← columnsOfConfig config
      let secret ← secretFields columns
      let page ← Store.pageOf (having "pageId" id) newestFirst number size none
        (ledger.responses.map Response.document)
      let rows ← page.documents.mapM (rowOf hide secret columns)
      return .sheet ⟨page.total, columns, rows⟩, desk) := by
  refine outcome_read_bind (outcome_ofOutcome _ _) fun columns _ => ?_
  refine outcome_read_bind (outcome_ofOutcome _ _) fun secret _ => ?_
  have found : (find responseCollection (having "pageId" id) newestFirst number size none).outcome
      desk = (Store.pageOf (having "pageId" id) newestFirst number size none
        (ledger.responses.map Response.document), desk) := by
    rw [outcome_find, Store.find_eq_pageOf, shows.responses, Keyed.contents_byName]
  refine outcome_read_bind found fun page _ => ?_
  exact outcome_read_bind (outcome_ofOutcome _ _) fun rows _ => rfl

/-- The responses are read off the ledger. -/
theorem outcome_data (shows : Shows desk ledger) (id : Value) (caller : Caller) (hide : Bool)
    (number size : Int) :
    (Op.data id caller hide number size).perform.outcome desk =
      (ledger.sheet id caller hide number size, desk) := by
  rw [Op.perform, data, Ledger.sheet]
  simp only [map_bind]
  cases owned : ledger.own id caller with
  | error fault => exact outcome_not_own shows owned _
  | ok form =>
    have found : (findOwnMeta id caller).outcome desk =
        (.ok (.object form.metaEntries), desk) := by
      rw [outcome_findOwnMeta shows, owned]
      rfl
    rw [outcome_bind, found]
    simp only [ok_bind, outcome_bind, outcome_findOne, firstPublication shows]
    cases Store.firstNamed Publication.id id ledger.publications with
    | error fault => rfl
    | ok publication =>
      cases publication with
      | none =>
        simp only [Except.map, Option.map_none, ok_bind, map_bind]
        rw [outcome_bind, outcome_findOne, firstConfig shows]
        cases ledger.contentNamed id with
        | error fault => rfl
        | ok content =>
          have rest := outcome_sheet shows id
            ((content.map Content.entries).map .object) hide number size
          cases content <;> exact rest
      | some publication =>
        have rest :=
          outcome_sheet shows id (some (.object publication.entries)) hide number size
        simp only [Except.map, Option.map, ok_bind, map_bind, pure_bind] at rest ⊢
        exact rest

theorem meets_data (shows : Shows desk ledger) (id : Value) (caller : Caller) (hide : Bool)
    (number size : Int) :
    Meets (Op.data id caller hide number size).perform desk
      (ledger.perform (.data id caller hide number size)) :=
  meets_of_eq (outcome_data shows id caller hide number size) shows

theorem meets_historyList (shows : Shows desk ledger) (survey type : Value) :
    Meets (Op.historyList survey type).perform desk
      (ledger.perform (.historyList survey type)) := by
  refine meets_of_eq ?_ shows
  rw [Op.perform, historyList, Ledger.historyList, map_bind]
  have found : (find historyCollection (.object [("pageId", survey), ("type", type)]) newestFirst 1
      historyLimit none).outcome desk = (Store.pageOf (.object [("pageId", survey), ("type", type)])
        newestFirst 1 historyLimit none (ledger.snapshots.map Snapshot.document), desk) := by
    rw [outcome_find, Store.find_eq_pageOf, shows.snapshots, Keyed.contents_byName]
  refine outcome_read_bind found fun page _ => ?_
  rw [map_bind, outcome_bind, outcome_copy]
  by_cases fits : Copyable 2 (.list page.documents)
  · rw [if_pos fits, if_pos fits]
    dsimp only
    rw [map_bind]
    exact outcome_read_bind (outcome_ofOutcome _ _) fun rows _ => rfl
  · rw [if_neg fits, if_neg fits]
    rfl

theorem meets_bannerData (shows : Shows desk ledger) (file : Option String) :
    Meets (Op.bannerData file).perform desk (ledger.perform (.bannerData file)) := by
  refine meets_of_eq ?_ shows
  unfold Op.answer Op.perform bannerData
  cases file with
  | none => rfl
  | some file => cases h : Destination.ofPath (shortestPath file.toList) <;> simp only [h] <;> rfl

/-! ## All operations -/

/-- Every operation at a desk is the operation on the ledger that the desk shows. -/
theorem meets_perform (shows : Shows desk ledger) (sound : ledger.Sound) (op : Op) :
    Meets op.perform desk (ledger.perform op) := by
  cases op with
  | add title remark questionType caller code => exact meets_add shows sound 2 _ _ _ _ _
  | create title remark questionType method source caller =>
    exact meets_create shows sound _ _ _ _ _ _
  | update id title remark caller => exact meets_update shows sound _ _ _ _
  | delete id caller => exact meets_delete shows sound _ _
  | list number size predicate order caller => exact meets_list shows _ _ _ _ _
  | saveConfig id code caller => exact meets_saveConfig shows sound _ _ _
  | get id caller => exact meets_get shows _ _
  | publish id caller => exact meets_publish shows sound _ _
  | addResponse id answers => exact meets_addResponse shows sound _ _
  | data id caller hide number size => exact meets_data shows _ _ _ _ _
  | bannerData file => exact meets_bannerData shows _
  | addHistory survey code type caller => exact meets_addHistory shows sound _ _ _ _
  | historyList survey type => exact meets_historyList shows _ _
  | wait seconds =>
    have later : Shows (desk.later seconds) (ledger.later seconds) :=
      { shows with time := by rw [Desk.later, shows.time]; rfl }
    exact meets_of_eq rfl later
  | pace passing =>
    have paced : Shows (desk.paced passing) (ledger.paced passing) :=
      { shows with time := by rw [Desk.paced, shows.time]; rfl }
    exact meets_of_eq rfl paced

theorem answer_eq (shows : Shows desk ledger) (sound : ledger.Sound) (op : Op) :
    op.answer desk = (ledger.perform op).1 :=
  (meets_perform shows sound op).1

theorem shows_after (shows : Shows desk ledger) (sound : ledger.Sound) (op : Op) :
    Shows (op.after desk) (ledger.perform op).2 :=
  (meets_perform shows sound op).2

/-- Operations one after another answer at a desk what they answer on the ledger. -/
theorem answers_eq (shows : Shows desk ledger) (sound : ledger.Sound) (ops : List Op) :
    Op.answers ops desk = ledger.answers ops := by
  induction ops generalizing desk ledger with
  | nil => rfl
  | cons op rest ih =>
    rw [Op.answers, Ledger.answers, answer_eq shows sound,
      ih (shows_after shows sound op) (Ledger.sound_perform sound op)]

theorem shows_run (shows : Shows desk ledger) (sound : ledger.Sound) (ops : List Op) :
    Shows (Op.run ops desk) (ledger.run ops) := by
  induction ops generalizing desk ledger with
  | nil => exact shows
  | cons op rest ih => exact ih (shows_after shows sound op) (Ledger.sound_perform sound op)

/-- A desk without documents shows a ledger without entries. -/
theorem shows_opened (clock : Int) : Shows (Desk.opened clock) (Ledger.opened clock) := by
  constructor <;> rfl

/-- Every reachable desk shows a ledger that keeps the rules. -/
theorem Reachable.shows (reached : Reachable allowed desk) :
    ∃ ledger : Ledger, Shows desk ledger ∧ ledger.Sound := by
  induction reached with
  | opened clock => exact ⟨_, shows_opened clock, Ledger.sound_opened clock⟩
  | step reached op fits ih =>
    obtain ⟨ledger, shows, sound⟩ := ih
    exact ⟨_, shows_after shows sound op, Ledger.sound_perform sound op⟩

end SurveyDesk.Survey
