import SurveyDesk.Proofs.Survey.Documents
import SurveyDesk.Proofs.Survey.Refinement

/-! Who owns a survey. A survey that was added stays there under its id with its owner, whatever
anybody does afterwards, and nothing that somebody else does touches its documents. -/
namespace SurveyDesk.Survey

/-- The caller for whom an operation adds a survey, if it is one that adds surveys. -/
def Op.creator? : Op → Option Caller
  | .add _ _ _ caller _ | .create _ _ _ _ _ caller => some caller
  | _ => none

/-- Whether an operation is made for nobody, or for somebody who is not this user. -/
def Op.IsNotBy (user : Text) (op : Op) : Prop :=
  ∀ caller, op.caller? = some caller → caller.id ≠ user

namespace Ledger

variable {ledger : Ledger} {form : Form} {op : Op} {id : Text}

/-- The survey that an operation adds is there afterwards, and it is the caller's. -/
theorem form?_of_created (sound : ledger.Sound) (creates : op.creator? = some owner)
    (answered : (ledger.perform op).1 = .ok (.value (.object [("pageId", .str id)]))) :
    ∃ form, (ledger.perform op).2.form? id = some form ∧ form.owner = owner ∧
      form.created = ledger.now := by
  have added {caller : Caller} {stored : Option Value} {calls : Nat} {code : Value}
      {answer : Except Fault Reply} (title remark questionType : Value)
      (kept : Kept ledger calls code answer stored)
      (named : answer = .ok (.value (.object [("pageId", .str id)]))) :
      (ledger.added title remark questionType caller stored).form? id =
        some (.fresh ledger.nextId title remark questionType caller stored ledger.now) := by
    cases kept with
    | nothing => cases named
    | whole =>
      cases named
      have absent : ledger.forms.find? (fun form => form.id = ledger.nextId) = none :=
        List.find?_eq_none.mpr fun form member same =>
          fresh_nextId sound (List.mem_map.mpr ⟨form, member, by simpa using same⟩)
      simp [form?, Ledger.added, List.find?_append, absent, Form.fresh]
  have step := step_perform ledger op
  generalize (ledger.perform op).1 = answer at step answered
  generalize (ledger.perform op).2 = after at step ⊢
  cases step with
  | added title remark questionType caller code kept =>
    cases creates
    exact ⟨_, added title remark questionType kept answered, rfl, rfl⟩
  | created title remark questionType method source caller anew kept =>
    cases creates
    exact ⟨_, added title remark questionType kept answered, rfl, rfl⟩
  | copied title remark questionType method source caller form content copies owned named kept =>
    cases creates
    exact ⟨_, added title remark form.questionType kept answered, rfl, rfl⟩
  | failed => cases answered
  | read op reads => cases op <;> first | exact reads.elim | cases creates
  | _ => cases creates

/-- A survey stays, with its origin, through every operation. -/
theorem origin_perform (sound : ledger.Sound) (held : ledger.form? id = some form) (op : Op) :
    ∃ later, (ledger.perform op).2.form? id = some later ∧ later.origin = form.origin := by
  cases effect_perform ledger op with
  | none forms publications => exact ⟨form, by rw [form?, forms]; exact held, rfl⟩
  | addition new _ forms publications =>
    refine ⟨form, ?_, rfl⟩
    rw [form?, forms, List.find?_append, ← form?, held, Option.some_or]
  | change other edited caller _ member _ _ _ _ edit forms publications =>
    have found : (ledger.perform op).2.form? id =
        some (if form.id = edited.id then edited else form) := by
      rw [form?, forms, ← form?, form?_put, held, Option.map_some]
    refine ⟨_, found, ?_⟩
    split
    · rename_i same
      have one : form = other := sound.eq_of_id member (mem_of_form? held) (same.trans edit.id_eq)
      rw [edit.origin_eq, one]
    · rfl

theorem origin_run (sound : ledger.Sound) (held : ledger.form? id = some form) (ops : List Op) :
    ∃ later, (ledger.run ops).form? id = some later ∧ later.origin = form.origin := by
  induction ops generalizing ledger form with
  | nil => exact ⟨form, held, rfl⟩
  | cons op rest ih =>
    obtain ⟨next, heldNext, same⟩ := origin_perform sound held op
    obtain ⟨later, heldLater, kept⟩ := ih (sound_perform sound op) heldNext
    exact ⟨later, heldLater, kept.trans same⟩

/-- An operation of somebody else touches neither a survey nor its publication, and none does once
the survey was removed. -/
theorem untouched_perform (sound : ledger.Sound) (held : ledger.form? id = some form)
    (spared : form.isRemoved = false → op.IsNotBy form.owner.id) :
    (ledger.perform op).2.form? id = ledger.form? id ∧
      (ledger.perform op).2.publication? id = ledger.publication? id := by
  cases effect_perform ledger op with
  | none forms publications => exact ⟨by rw [form?, forms, form?],
      by rw [publication?, publications, publication?]⟩
  | addition new _ forms publications =>
    refine ⟨?_, by rw [publication?, publications, publication?]⟩
    rw [form?, forms, List.find?_append, ← form?, held, Option.some_or]
  | change other edited caller asked member present mine _ _ edit forms publications =>
    have different : other.id ≠ id := by
      intro same
      obtain rfl : form = other :=
        sound.eq_of_id member (mem_of_form? held) ((id_of_form? held).trans same.symm)
      exact spared present caller asked mine.symm
    constructor
    · have kept : form.id ≠ edited.id := by
        rw [id_of_form? held, edit.id_eq]
        exact different.symm
      rw [form?, forms, ← form?, form?_put, held, Option.map_some, if_neg kept]
    · rcases publications with same | ⟨code, published⟩
      · rw [publication?, same, publication?]
      · rw [publication?, published, ← publication?, publication?_published _ _ different]

end Ledger

/-- The keys of a meta document that say where the survey comes from. -/
def originKeys : List Text := ["_id", "ownerId", "owner", "questionType", "createDate"]

variable {desk : Desk} {ledger : Ledger} {op : Op} {owner : Caller} {id : Text}

private theorem origin_entries {form later : Form} (same : later.origin = form.origin)
    (key : Text) (member : key ∈ originKeys) :
    ∃ value, form.metaDocument.named.get? key = some value ∧
      later.metaDocument.named.get? key = some value := by
  simp only [Form.origin, Prod.mk.injEq] at same
  obtain ⟨id, owner, questionType, created⟩ := same
  simp only [originKeys, List.mem_cons, List.not_mem_nil, or_false] at member
  rw [Form.named_metaDocument, Form.named_metaDocument, Form.metaEntries, Form.metaEntries, id,
    owner, questionType, created]
  rcases member with rfl | rfl | rfl | rfl | rfl <;> exact ⟨_, rfl, rfl⟩

private theorem untouched_documents (shows : Shows desk ledger) (sound : ledger.Sound)
    (held : ledger.form? id = some form) (step : Op) (others : step.IsNotBy form.owner.id)
    (name : Text) (member : name ∈ surveyCollections) :
    documentUnder? (step.after desk) name id = documentUnder? desk name id := by
  obtain ⟨forms, publications⟩ := Ledger.untouched_perform sound held fun _ => others
  have after := shows_after shows sound step
  simp only [surveyCollections, List.mem_cons, List.not_mem_nil, or_false] at member
  rcases member with rfl | rfl | rfl
  · rw [metaUnder?_eq after, metaUnder?_eq shows, forms]
  · rw [configUnder?_eq after (Ledger.sound_perform sound step), configUnder?_eq shows sound, forms]
  · rw [publicationUnder?_eq after, publicationUnder?_eq shows, publications]

/-- Once an operation has added a survey for a user, the survey's meta document is there under its
id and names the user as its owner, and after any further operations it is still there with the
same id, owner, kind of questions and date of creation. A step that is not the owner's leaves the
meta document, the config document and the publication of the survey exactly as they are. -/
theorem ownership_fixed (reached : Reachable Op.any desk) (creates : op.creator? = some owner)
    (answered : op.answer desk = .ok (.value (.object [("pageId", .str id)]))) :
    ∃ first, documentUnder? (op.after desk) metaCollection id = some first ∧
      first.named.get? "_id" = some (.str id) ∧
      first.named.get? "ownerId" = some (.str owner.id) ∧
      first.named.get? "owner" = some (.str owner.name) ∧
      first.named.get? "createDate" = some (.int desk.now) ∧
      ∀ ops : List Op,
        (∃ later, documentUnder? (Op.run ops (op.after desk)) metaCollection id = some later ∧
          ∀ key ∈ originKeys, ∃ value, first.named.get? key = some value ∧
            later.named.get? key = some value) ∧
        ∀ step : Op, step.IsNotBy owner.id → ∀ name ∈ surveyCollections,
          documentUnder? (step.after (Op.run ops (op.after desk))) name id =
            documentUnder? (Op.run ops (op.after desk)) name id := by
  obtain ⟨ledger, shows, sound⟩ := reached.shows
  rw [answer_eq shows sound] at answered
  obtain ⟨form, held, rfl, created⟩ := Ledger.form?_of_created sound creates answered
  have showsAfter := shows_after shows sound op
  have soundAfter := Ledger.sound_perform sound op
  have named := Ledger.id_of_form? held
  refine ⟨form.metaDocument, by rw [metaUnder?_eq showsAfter, held, Option.map_some], ?_⟩
  rw [Form.named_metaDocument]
  refine ⟨named ▸ rfl, rfl, rfl, ?_, fun ops => ?_⟩
  · have date : (Value.object form.metaEntries).get? "createDate" = some (.int form.created) := rfl
    rw [date, created, Desk.now, Ledger.now, shows.time]
  have showsLater := shows_run showsAfter soundAfter ops
  obtain ⟨later, heldLater, same⟩ := Ledger.origin_run soundAfter held ops
  constructor
  · refine ⟨later.metaDocument, by rw [metaUnder?_eq showsLater, heldLater, Option.map_some], ?_⟩
    rw [← Form.named_metaDocument]
    exact origin_entries same
  · intro step others
    have owner : later.owner = form.owner := congrArg (·.2.1) same
    exact untouched_documents showsLater (Ledger.sound_run soundAfter ops) heldLater step
      (owner ▸ others)

private def eve : Caller := ⟨"5", "eve"⟩

private def finn : Caller := ⟨"6", "finn"⟩

/-- Eve adds a survey, publishes it and gives it another title, while Finn adds one and tries to
publish Eve's; Finn's attempt to remove Eve's survey leaves its publication alone. -/
theorem ownership_fixed_foreignRemoval :
    let adds := Op.add (.str "a") .null (.str "vote") eve .null
    let desk := Op.run [.publish (.str "id1") eve, .add (.str "b") .null .null finn .null,
      .publish (.str "id1") finn, .update (.str "id1") (.str "c") .null eve]
      (adds.after (Desk.opened 7))
    Reachable Op.any (Desk.opened 7) ∧ adds.creator? = some eve ∧
    adds.answer (Desk.opened 7) = .ok (.value (.object [("pageId", .str "id1")])) ∧
    (∃ later, documentUnder? desk metaCollection "id1" = some later ∧
      later.named.get? "ownerId" = some (.str "5")) ∧
    documentUnder? ((Op.delete (.str "id1") finn).after desk) publicationCollection "id1" =
      documentUnder? desk publicationCollection "id1" := by
  intro adds desk
  have answered : adds.answer (Desk.opened 7) =
      .ok (.value (.object [("pageId", .str "id1")])) := rfl
  obtain ⟨first, -, -, owned, -, -, fixed⟩ := ownership_fixed (.opened 7) rfl answered
  obtain ⟨⟨later, held, same⟩, untouched⟩ := fixed [.publish (.str "id1") eve,
    .add (.str "b") .null .null finn .null, .publish (.str "id1") finn,
    .update (.str "id1") (.str "c") .null eve]
  obtain ⟨value, before, now⟩ := same "ownerId" (by decide)
  have others : (Op.delete (.str "id1") finn).IsNotBy eve.id := by
    rintro caller ⟨⟩
    decide
  refine ⟨.opened 7, rfl, answered, ⟨later, held, ?_⟩, untouched _ others _ (by decide)⟩
  rw [now, ← before, owned]
  rfl

end SurveyDesk.Survey
