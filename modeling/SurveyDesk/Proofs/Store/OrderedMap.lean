import SurveyDesk.Proofs.Store.Calls

/-! A store is an ordered map, whatever was called before. What it holds can be told from the calls
alone: the ids inserted since the last clearing, in order of their first insertion, and under each
the document last inserted, with what every later change of it brought laid over at the top level. -/
namespace SurveyDesk.Store

/-- The calls since the last clearing. -/
def sinceClear (calls : List Call) : List Call := calls.rtakeWhile (!·.clears)

/-- The ids inserted into a collection since the last clearing, in order of first insertion. -/
def idsInserted (name : Text) (calls : List Call) : List Text :=
  ((sinceClear calls).filterMap fun call => (call.inserted? name).map Prod.fst).eraseDups

/-- The document last inserted under an id, and the calls after that. -/
def lastInserted? (name id : Text) : List Call → Option (Document × List Call)
  | [] => none
  | call :: later =>
    (lastInserted? name id later).or <|
      match call.inserted? name with
      | some (other, document) => if other = id then some (document, later) else none
      | none => none

/-- What is under an id after calls: the document last inserted, with the later changes of it. -/
def standing? (name id : Text) (calls : List Call) : Option Document :=
  (lastInserted? name id (sinceClear calls)).map fun (document, later) =>
    Keyed.putAll document (later.flatMap (Call.changes name id))

variable {calls : List Call} {call : Call} {name : Text} {document : Document}

/-! ## One call more -/

theorem sinceClear_snoc (stays : call.clears = false) :
    sinceClear (calls ++ [call]) = sinceClear calls ++ [call] := by
  rw [sinceClear, List.rtakeWhile_concat_pos _ _ _ (by simp [stays])]
  rfl

theorem sinceClear_clear (calls : List Call) : sinceClear (calls ++ [.clear]) = [] := by
  rw [sinceClear, List.rtakeWhile_concat_neg _ _ _ (by simp [Call.clears])]

@[simp] theorem idsInserted_clear (name : Text) (calls : List Call) :
    idsInserted name (calls ++ [.clear]) = [] := by
  rw [idsInserted, sinceClear_clear]
  rfl

theorem idsInserted_of_inserted {id : Text} (inserts : call.inserted? name = some (id, document)) :
    idsInserted name (calls ++ [call]) =
      if id ∈ idsInserted name calls then idsInserted name calls
      else idsInserted name calls ++ [id] := by
  simp only [idsInserted, sinceClear_snoc (Call.stays_of_inserted? inserts),
    List.filterMap_append, List.filterMap_cons, List.filterMap_nil, inserts, Option.map_some,
    List.eraseDups_append, List.mem_eraseDups]
  split
  · rename_i present
    simp [List.removeAll, present]
  · rename_i absent
    simp [List.removeAll, absent, List.eraseDups_cons]

theorem idsInserted_of_fresh (stays : call.clears = false) (fresh : call.inserted? name = none) :
    idsInserted name (calls ++ [call]) = idsInserted name calls := by
  simp [idsInserted, sinceClear_snoc stays, fresh]

theorem lastInserted?_snoc (name id : Text) (calls : List Call) (call : Call) :
    lastInserted? name id (calls ++ [call]) =
      (lastInserted? name id [call]).or ((lastInserted? name id calls).map
        fun (document, later) => (document, later ++ [call])) := by
  induction calls with
  | nil => simp [lastInserted?]
  | cons first rest ih =>
    rw [List.cons_append, lastInserted?, ih]
    simp only [lastInserted?, Option.or_assoc, Option.map_or, Option.none_or]
    congr 1
    congr 1
    split
    · split <;> rfl
    · rfl

@[simp] theorem standing?_clear (name id : Text) (calls : List Call) :
    standing? name id (calls ++ [.clear]) = none := by
  rw [standing?, sinceClear_clear]
  rfl

theorem standing?_of_inserted {id : Text} (inserts : call.inserted? name = some (id, document))
    (wanted : Text) :
    standing? name wanted (calls ++ [call]) =
      if id = wanted then some document else standing? name wanted calls := by
  rw [standing?, sinceClear_snoc (Call.stays_of_inserted? inserts), lastInserted?_snoc]
  simp only [lastInserted?, inserts, Option.none_or]
  split
  · rfl
  · obtain ⟨entries, rfl, -⟩ := Call.of_inserted? inserts
    simp [standing?, Function.comp_def, Call.changes]

theorem standing?_of_fresh (stays : call.clears = false) (fresh : call.inserted? name = none)
    (wanted : Text) :
    standing? name wanted (calls ++ [call]) =
      (standing? name wanted calls).map (Keyed.putAll · (call.changes name wanted)) := by
  simp only [standing?, sinceClear_snoc stays, lastInserted?_snoc]
  simp only [lastInserted?, fresh, Option.none_or, Option.map_map, Function.comp_def,
    List.flatMap_append, List.flatMap_cons, List.flatMap_nil, List.append_nil, Keyed.putAll,
    List.foldl_append]

/-- An id is inserted once, however often its document is. -/
theorem nodup_idsInserted (name : Text) (calls : List Call) : (idsInserted name calls).Nodup := by
  induction calls using List.reverseRecOn with
  | nil => exact List.nodup_nil
  | append_singleton calls call ih =>
    cases inserts : call.inserted? name with
    | some entry =>
      obtain ⟨id, document⟩ := entry
      rw [idsInserted_of_inserted inserts]
      split
      · exact ih
      · rename_i absent
        refine List.nodup_append.mpr ⟨ih, by simp, fun other within last single same => absent ?_⟩
        rwa [← List.mem_singleton.mp single, ← same]
    | none =>
      cases stays : call.clears with
      | false => rwa [idsInserted_of_fresh stays inserts]
      | true =>
        rw [Call.eq_clear stays, idsInserted_clear]
        exact List.nodup_nil

/-! ## All calls -/

/-- Whether a collection is what calls make of it: its keys are the ids that they inserted, and
under each is what they left there. -/
structure Mirrors (name : Text) (calls : List Call) (content : Collection) : Prop where
  keys : content.map Prod.fst = (idsInserted name calls).map .str
  contents : ∀ id, Keyed.get? (.str id) content = standing? name id calls

/-- What one call does to a collection is what it adds to the calls. -/
theorem Mirrors.step {content left : Collection} (mirrored : Mirrors name calls content)
    (does : call.Does name content left) : Mirrors name (calls ++ [call]) left := by
  have present (id : Text) := Keyed.isSome_get?_texts mirrored.keys id
  cases does with
  | @inserted document id inserts =>
    refine ⟨?_, fun wanted => ?_⟩
    · rw [idsInserted_of_inserted inserts]
      split
      · rename_i known
        rw [Keyed.map_fst_put ((present id).mpr known), mirrored.keys]
      · rename_i new
        have lacking : Keyed.get? (.str id) content = none :=
          Option.not_isSome_iff_eq_none.mp fun found => new ((present id).mp found)
        simp [Keyed.put_of_lacking lacking, mirrored.keys]
    · simp [Keyed.get?_put_text, standing?_of_inserted inserts, mirrored.contents]
  | @updated overlay document id wanted updates legal held =>
    subst updates
    refine ⟨?_, fun other => ?_⟩
    · rw [Keyed.map_fst_put (by rw [held]; rfl), mirrored.keys, idsInserted_of_fresh rfl rfl]
    · rw [Keyed.get?_put_text, standing?_of_fresh rfl rfl, ← mirrored.contents]
      by_cases same : id = other
      · subst same
        simp [held, Call.changes, legal, Except.toOption]
      · simp [same, Call.changes, Keyed.putAll]
  | dropped clears =>
    subst clears
    exact ⟨by simp, fun id => by simp [Keyed.get?]⟩
  | kept stays fresh idle =>
    refine ⟨by rw [mirrored.keys, idsInserted_of_fresh stays fresh], fun id => ?_⟩
    rw [standing?_of_fresh stays fresh, ← mirrored.contents]
    cases held : Keyed.get? (.str id) content with
    | none => rfl
    | some document => simp [idle id (by rw [held]; rfl), Keyed.putAll]

theorem mirrors_run (names : ∀ call ∈ calls, call.NamesByText) (name : Text) :
    Mirrors name calls ((Call.run calls).collection name) := by
  induction calls using List.reverseRecOn with
  | nil => exact ⟨rfl, fun _ => rfl⟩
  | append_singleton calls call ih =>
    rw [Call.run_snoc]
    have before := ih fun other member => names other (List.mem_append_left _ member)
    exact before.step (Call.does (names call (by simp)) _ _)

/-! ## Finding -/

/-- The first document that satisfies a predicate is the first of all that do. -/
theorem firstWhere_eq_head? {predicate : Value} {documents found : List Document}
    {first : Option Value} (one : firstWhere predicate documents = .ok first)
    (all : hits none predicate documents = .ok found) :
    first = (found.map Document.shown).head? := by
  induction documents generalizing found with
  | nil =>
    cases one
    cases all
    rfl
  | cons document rest ih =>
    simp only [hits, pure_bind, if_true, firstWhere] at all one
    obtain ⟨satisfied, decided, one⟩ := bind_eq_ok.mp one
    rw [decided, ok_bind] at all
    obtain ⟨others, behind, all⟩ := bind_eq_ok.mp all
    cases satisfied with
    | true =>
      cases one
      cases all
      rfl
    | false =>
      cases all
      exact ih one behind

/-- The predicate that asks for nothing finds every document, and a page without a size shows all
that is found. -/
theorem find_all (store : Store) (name : Text) (number : Int) (unpaged : size ≤ 0) :
    store.find name (.object []) [] number size none =
      .ok ⟨(store.collection name).contents.length,
        (store.collection name).contents.map Document.shown⟩ := by
  have asked (document : Document) : Predicate.holds document.named (.object []) = .ok true := by
    simp [Predicate.holds, Predicate.holdsAll]
  have every := hits_decided asked (store.collection name).contents
  simp only [List.map_id', List.filter_true] at every
  rw [find, every, ok_bind, SortSpec.sort, ok_bind, paged, if_pos unpaged]
  rfl

/-! ## The ordered map -/

/-- What it is for a store to be an ordered map after calls. -/
structure OrderedMap (calls : List Call) (store : Store) : Prop where
  /-- All documents of a collection are those under the ids that were inserted, in their order. -/
  found : ∀ name number size, size ≤ 0 → ∃ documents : List Document,
    (idsInserted name calls).map (standing? name · calls) = documents.map some ∧
      store.find name (.object []) [] number size none =
        .ok ⟨documents.length, documents.map Document.shown⟩
  /-- Each of those ids is there once. -/
  distinct : ∀ name, (idsInserted name calls).Nodup
  /-- At its top level a document has what the last change under a key brought, and what was
  inserted where no change did. -/
  overlaid : ∀ name id inserted later key,
    lastInserted? name id (sinceClear calls) = some (inserted, later) →
      (standing? name id calls).map (Keyed.get? (.str key)) =
        some ((Keyed.get? (.str key) (later.flatMap (Call.changes name id)).reverse).or
          (Keyed.get? (.str key) inserted))
  /-- A change answers nothing exactly if its id was not inserted. -/
  missed : ∀ name id changes,
    (Call.update name (.str id) changes).answer store = .ok (.found none) ↔
      id ∉ idsInserted name calls
  /-- A change that answers nothing changes nothing. -/
  missedLeaves : ∀ name id changes,
    (Call.update name (.str id) changes).answer store = .ok (.found none) →
      (Call.update name (.str id) changes).after store = store
  /-- An insertion or a change leaves every other collection. -/
  otherCollections : ∀ (call : Call) name, call.NamesByText → call.clears = false →
    call.written? ≠ some name → (call.after store).collection name = store.collection name
  /-- An insertion or a change leaves every other document of its collection. -/
  otherDocuments : ∀ (call : Call) name id, call.NamesByText → call.clears = false →
    call.writtenId? ≠ some (.str id) →
      Keyed.get? (.str id) ((call.after store).collection name) =
        Keyed.get? (.str id) (store.collection name)
  /-- A call that fails leaves the store. -/
  failed : ∀ (call : Call) fault, call.answer store = .error fault → call.after store = store
  /-- The document that is found alone is the first of those that are found together. -/
  first : ∀ name predicate document page, store.findOne name predicate = .ok document →
    store.find name predicate [] 1 0 none = .ok page → document = page.documents.head?

/-- Whatever is called with texts as ids, the store is an ordered map: it holds one document for
each id inserted since the last clearing, in order of first insertion, with the changes laid over
it; a call touches no other document, and none if it fails. -/
theorem orderedMap_run (names : ∀ call ∈ calls, call.NamesByText) :
    OrderedMap calls (Call.run calls) := by
  have mirrored := mirrors_run names
  refine {
    found := fun name number size unpaged => ?_
    distinct := fun name => nodup_idsInserted name calls
    overlaid := fun name id inserted later key last => ?_
    missed := fun name id changes => ?_
    missedLeaves := fun name id changes => Call.after_of_missed
    otherCollections := fun call name names => Call.collection_after names
    otherDocuments := fun call name id names => Call.get?_after names
    failed := fun call fault => Call.after_of_failed
    first := fun name predicate document page one all => ?_ }
  · refine ⟨_, ?_, find_all _ name number unpaged⟩
    rw [← Keyed.map_get?_texts (mirrored name).keys (nodup_idsInserted name calls)]
    exact List.map_congr_left fun id _ => ((mirrored name).contents id).symm
  · rw [standing?, last, Option.map_map, Option.map_some, Function.comp_apply,
      Keyed.get?_putAll_text]
  · rw [Call.missed_iff, ← Keyed.isSome_get?_texts (mirrored name).keys id]
    simp
  · obtain ⟨found, hit, all⟩ := bind_eq_ok.mp all
    cases all
    exact firstWhere_eq_head? one hit

/-- Calls that write to two collections and clear them on the way; some of them fail. -/
def chores : List Call :=
  [.insert "c" (.object [("_id", .str "z")]), .clear,
    .insert "c" (.object [("_id", .str "a"), ("t", .int 1)]),
    .insert "c" (.object [("_id", .str "b")]), .insert "c" (.object [("t", .int 2)]),
    .update "c" (.str "a") (.object [("t", .int 3)]), .insert "d" (.object [("_id", .str "a")]),
    .insert "c" (.object [("_id", .str "a"), ("u", .object [("x", .int 4), ("y", .int 5)])]),
    .update "c" (.str "a") (.object [("u", .object [("x", .int 6)]), ("v", .null)]),
    .update "c" (.str "a") (.bool true), .update "c" (.str "z") (.object [("t", .int 7)]),
    .find "c" (.object [("OR", .int 8)]) [] 1 0 none]

theorem orderedMap_chores :
    (∀ call ∈ chores, call.NamesByText) ∧ OrderedMap chores (Call.run chores) ∧
      idsInserted "c" chores = ["a", "b"] ∧
      standing? "c" "a" chores = some [(.str "_id", .str "a"),
        (.str "u", .object [("x", .int 6)]), (.str "v", .null)] ∧
      (Call.insert "c" (.object [("t", .int 2)])).answer (Call.run chores) =
        .error .documentWithoutId := by
  have names : ∀ call ∈ chores, call.NamesByText := by
    simp [chores, Call.NamesByText, Value.get?, Entries.get?, idKey]
  exact ⟨names, orderedMap_run names, by decide, by rfl, by rfl⟩

end SurveyDesk.Store
