import SurveyDesk.Proofs.Store.OrderedMap

/-! A document is kept under its id and names its id as well. An insertion makes the two the same,
but nothing keeps them so: a change is laid over the document whatever it brings under `_id`. The
documents of a collection name the ids that they are under exactly if no change has renamed one;
where they do, looking for an id among the documents is looking under it. -/
namespace SurveyDesk.Store

/-- Whether every document of a collection names the id that it is under. -/
def OwnIds (content : Collection) : Prop :=
  ∀ id document, Keyed.get? (.str id) content = some document →
    Keyed.get? (.str idKey) document = some (.str id)

/-- Whether the changes of a document since it was last inserted bring no id but its own, or at
least its own at last. -/
def KeepsId (name : Text) (calls : List Call) (id : Text) : Prop :=
  ∀ inserted later brought, lastInserted? name id (sinceClear calls) = some (inserted, later) →
    Keyed.get? (.str idKey) (later.flatMap (Call.changes name id)).reverse = some brought →
      brought = .str id

variable {calls : List Call} {content : Collection} {texts : List Text} {name : Text}

/-- A document is inserted under the id that it names. -/
theorem lastInserted?_names {id : Text} {inserted : Document} {later : List Call}
    (last : lastInserted? name id calls = some (inserted, later)) :
    Keyed.get? (.str idKey) inserted = some (.str id) := by
  induction calls generalizing later with
  | nil => cases last
  | cons call rest ih =>
    rw [lastInserted?, Option.or_eq_some_iff] at last
    rcases last with behind | ⟨-, here⟩
    · exact ih behind
    · split at here
      · rename_i other document inserts
        split at here
        · rename_i same
          cases here
          subst same
          obtain ⟨entries, -, identified, rfl⟩ := Call.of_inserted? inserts
          rw [← Document.get?_named, Document.named_ofEntries]
          exact identified
        · cases here
      · cases here

/-- Documents name the ids that they are under exactly if no change has renamed one. -/
theorem ownIds_iff (names : ∀ call ∈ calls, call.NamesByText) (name : Text) :
    OwnIds ((Call.run calls).collection name) ↔ ∀ id, KeepsId name calls id := by
  have mirrored := mirrors_run names name
  constructor
  · intro own id inserted later brought last renamed
    have held := (mirrored.contents id).trans (by rw [standing?, last, Option.map_some])
    have named := own id _ held
    rw [Keyed.get?_putAll_text, renamed, Option.some_or, Option.some.injEq] at named
    exact named
  · intro keeps id document held
    rw [mirrored.contents, standing?, Option.map_eq_some_iff] at held
    obtain ⟨⟨inserted, later⟩, last, rfl⟩ := held
    rw [Keyed.get?_putAll_text]
    cases brought : Keyed.get? (.str idKey) (later.flatMap (Call.changes name id)).reverse with
    | none => exact lastInserted?_names last
    | some value => rw [keeps id inserted later value last brought, Option.some_or]

theorem OwnIds.ids (own : OwnIds content) (keys : content.map Prod.fst = texts.map .str)
    (distinct : texts.Nodup) :
    content.contents.map (Keyed.get? (.str idKey)) = texts.map fun text => some (.str text) := by
  have each := congrArg (List.map (Option.bind · (Keyed.get? (.str idKey))))
    (Keyed.map_get?_texts keys distinct)
  simp only [List.map_map, Function.comp_def, Option.bind_some] at each
  rw [← each]
  refine List.map_congr_left fun text member => ?_
  obtain ⟨document, held⟩ := Option.isSome_iff_exists.mp
    ((Keyed.isSome_get?_texts keys text).mpr member)
  rw [held, Option.bind_some, own text document held]

theorem plain_idKey : PlainKey idKey := ⟨by decide, by decide⟩

/-- Where documents name the ids that they are under, the first with an id is the one under it. -/
theorem firstWhere_id (keys : content.map Prod.fst = texts.map .str)
    (ids : content.contents.map (Keyed.get? (.str idKey)) = texts.map fun text => some (.str text))
    (wanted : Text) :
    firstWhere (.object [(idKey, .str wanted)]) content.contents =
      .ok ((Keyed.get? (.str wanted) content).map Document.shown) := by
  induction texts generalizing content with
  | nil =>
    rw [List.map_nil, List.map_eq_nil_iff] at keys
    rw [keys]
    rfl
  | cons text rest ih =>
    cases content with
    | nil => cases keys
    | cons row content =>
      obtain ⟨key, document⟩ := row
      obtain ⟨rfl, behind⟩ := List.cons.inj keys
      obtain ⟨named, others⟩ := List.cons.inj ids
      rw [Keyed.contents, List.map_cons, firstWhere, holds_single plain_idKey, Document.get?_named,
        named, expectedHolds_key rfl, ok_bind, Value.text_equals_text, Keyed.get?,
        Value.text_alike_text]
      by_cases same : text = wanted
      · simp only [same, decide_true, if_true]
        rfl
      · simp only [same, decide_false, Bool.false_eq_true, if_false]
        exact ih behind others

/-- Documents name the ids that they are under exactly if no change has renamed one; and where they
do, no two have the same id, and the document with an id is the one that a change of it answers. -/
theorem ownIds_run (names : ∀ call ∈ calls, call.NamesByText) (name : Text) :
    (OwnIds ((Call.run calls).collection name) ↔ ∀ id, KeepsId name calls id) ∧
      (OwnIds ((Call.run calls).collection name) →
        (((Call.run calls).collection name).contents.map (Keyed.get? (.str idKey))).Nodup ∧
        ∀ id, ∃ found,
          (Call.findOne name (.object [(idKey, .str id)])).answer (Call.run calls) =
            .ok (.found found) ∧
          (Call.update name (.str id) (.object [])).answer (Call.run calls) =
            .ok (.found found)) := by
  refine ⟨ownIds_iff names name, fun own => ?_⟩
  have keys := (mirrors_run names name).keys
  have distinct := nodup_idsInserted name calls
  have ids := own.ids keys distinct
  constructor
  · rw [ids]
    exact List.pairwise_map.mpr (distinct.imp fun apart same => apart (by simpa using same))
  · intro id
    refine ⟨(Keyed.get? (.str id) ((Call.run calls).collection name)).map Document.shown, ?_, ?_⟩
    · rw [Call.answer, Call.perform, findOne, firstWhere_id keys ids]
      rfl
    · rw [Call.answer, Call.perform, update_object]
      cases Keyed.get? (.str id) ((Call.run calls).collection name) <;> rfl

/-- Calls of which one lays another id over a document. -/
def renamed : List Call :=
  [.insert "c" (.object [("_id", .str "a")]),
    .update "c" (.str "a") (.object [("_id", .str "b")])]

/-- After a change that brings another id a document is not found by the id that it is under. -/
theorem not_ownIds_renamed :
    (∀ call ∈ renamed, call.NamesByText) ∧ ¬ OwnIds ((Call.run renamed).collection "c") ∧
      (Call.findOne "c" (.object [("_id", .str "a")])).answer (Call.run renamed) =
        .ok (.found none) ∧
      (Call.update "c" (.str "a") (.object [])).answer (Call.run renamed) =
        .ok (.found (some (.object [("_id", .str "b")]))) := by
  have content : (Call.run renamed).collection "c" = [(.str "a", [(.str "_id", .str "b")])] := by
    rfl
  refine ⟨?_, ?_, ?_, by rfl⟩
  · simp [renamed, Call.NamesByText, Value.get?, Entries.get?, idKey]
  · intro own
    have named := own "a" [(.str "_id", .str "b")] (by rfl)
    simp [Keyed.get?, idKey] at named
  · rw [Call.answer, Call.perform, findOne, content]
    have missed : Predicate.holds (Document.named [(.str "_id", .str "b")])
        (.object [("_id", .str "a")]) = .ok false :=
      (holds_single plain_idKey _ _).trans (expectedHolds_key rfl (.str "b"))
    simp only [Keyed.contents, List.map_cons, List.map_nil, firstWhere, missed]
    rfl

/-- Calls of which the last lays a document's own id over it again. -/
def restored : List Call :=
  renamed ++ [.update "c" (.str "a") (.object [("_id", .str "a"), ("t", .null)])]

theorem ownIds_restored :
    (∀ call ∈ restored, call.NamesByText) ∧ OwnIds ((Call.run restored).collection "c") ∧
      ∃ found,
        (Call.findOne "c" (.object [("_id", .str "a")])).answer (Call.run restored) =
          .ok (.found found) ∧
        (Call.update "c" (.str "a") (.object [])).answer (Call.run restored) =
          .ok (.found found) := by
  have names : ∀ call ∈ restored, call.NamesByText := by
    simp [restored, renamed, Call.NamesByText, Value.get?, Entries.get?, idKey]
  have own : OwnIds ((Call.run restored).collection "c") := by
    intro id document held
    have content : (Call.run restored).collection "c" =
        [(.str "a", [(.str "_id", .str "a"), (.str "t", .null)])] := by rfl
    rw [content] at held
    simp only [Keyed.get?, Value.text_alike_text, decide_eq_true_eq] at held
    split at held
    · rename_i here
      cases held
      simp [Keyed.get?, idKey, here]
    · cases held
  exact ⟨names, own, ((ownIds_run names "c").2 own).2 "a"⟩

end SurveyDesk.Store
