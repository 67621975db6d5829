import SurveyDesk.Proofs.Survey.Step

/-! What an operation can do to the surveys of a ledger, said once for all operations. It leaves
them as they are, adds a survey at the end, or makes one edit of a survey that is the caller's own
and not removed. Whatever an operation keeps of a survey is read off the edits. -/
namespace SurveyDesk.Survey

/-- The caller on whose behalf an operation is made, if it is made on somebody's. -/
def Op.caller? : Op → Option Caller
  | .add _ _ _ caller _ | .create _ _ _ _ _ caller | .update _ _ _ caller | .delete _ caller
  | .list _ _ _ _ caller | .saveConfig _ _ caller | .get _ caller | .publish _ caller
  | .data _ caller _ _ _ | .addHistory _ _ _ caller => some caller
  | .addResponse _ _ | .bannerData _ | .historyList _ _ | .wait _ | .pace _ => none

namespace Form

/-- The edits that the owner of a survey can make at a time. -/
inductive Edit (now : Int) (form : Form) : Form → Prop where
  | retitled (title remark : Value) : Edit now form (form.retitled title remark now)
  | rewritten (code : Value) : Edit now form ((form.rewritten code).moved .editing now)
  | published : Edit now form (form.moved .published now)
  | removed : Edit now form (form.moved .removed now)

/-- Where a survey comes from: its id, its owner, the kind of its questions, and when it was
added. -/
def origin (form : Form) : Text × Caller × Value × Int :=
  (form.id, form.owner, form.questionType, form.created)

variable {form edited : Form} {now : Int}

theorem Edit.origin_eq (edit : form.Edit now edited) : edited.origin = form.origin := by
  cases edit <;> rfl

theorem Edit.id_eq (edit : form.Edit now edited) : edited.id = form.id :=
  congrArg Prod.fst edit.origin_eq

end Form

namespace Ledger

/-- A survey as it is added to a ledger now. -/
def Adds (ledger : Ledger) (form : Form) : Prop :=
  ∃ title remark questionType owner code,
    form = .fresh ledger.nextId title remark questionType owner code ledger.now

/-- What an operation does to the surveys and the publications of a ledger. -/
inductive Effect (ledger : Ledger) (op : Op) (after : Ledger) : Prop where
  | none (forms : after.forms = ledger.forms)
    (publications : after.publications = ledger.publications)
  | addition (form : Form) (new : ledger.Adds form)
    (forms : after.forms = ledger.forms ++ [form])
    (publications : after.publications = ledger.publications)
  | change (form edited : Form) (caller : Caller) (asked : op.caller? = some caller)
    (member : form ∈ ledger.forms) (present : form.isRemoved = false)
    (mine : form.owner.id = caller.id) (date : Int)
    (timed : date = ledger.now ∨ date = ledger.read.now ∧ after.time = ledger.time.read.read)
    (edit : form.Edit date edited)
    (forms : after.forms = (ledger.put edited).forms)
    (publications : after.publications = ledger.publications ∨ ∃ code,
      after.publications = (ledger.published ⟨form.id, code, ledger.now⟩).publications)

variable {ledger after : Ledger} {op : Op}

/-- Every operation has one of these effects, whether it fails or not. -/
theorem effect_perform (ledger : Ledger) (op : Op) : Effect ledger op (ledger.perform op).2 := by
  have step := step_perform ledger op
  generalize (ledger.perform op).1 = answer at step
  generalize (ledger.perform op).2 = after at step ⊢
  cases step with
  | failed | read | waited | paced | responded | recorded => exact .none rfl rfl
  | added | created | copied => exact .addition _ ⟨_, _, _, _, _, rfl⟩ rfl rfl
  | updated title remark caller form owned =>
    obtain ⟨member, present, mine⟩ := of_own owned
    exact .change form _ caller rfl member present mine _ (.inl rfl) (.retitled title remark) rfl
      (.inl rfl)
  | removed id caller form owned =>
    obtain ⟨member, present, mine⟩ := of_own owned
    exact .change form _ caller rfl member present mine _ (.inl rfl) .removed rfl (.inl rfl)
  | saved code caller form owned =>
    obtain ⟨member, present, mine⟩ := of_own owned
    exact .change form _ caller rfl member present mine _ (.inl rfl) (.rewritten code) rfl
      (.inl rfl)
  | published caller form content owned =>
    obtain ⟨member, present, mine⟩ := of_own owned
    exact .change form _ caller rfl member present mine _ (.inr ⟨rfl, rfl⟩) .published rfl
      (.inr ⟨_, rfl⟩)

/-- Every survey that is there after an operation was there before, has been added, or comes of an
edit. -/
theorem of_mem_forms_perform (member : form ∈ (ledger.perform op).2.forms) :
    form ∈ ledger.forms ∨ ledger.Adds form ∨
      ∃ old ∈ ledger.forms, old.isRemoved = false ∧
        ∃ date, (date = ledger.now ∨
          date = ledger.read.now ∧ (ledger.perform op).2.time = ledger.time.read.read) ∧
          old.Edit date form := by
  cases effect_perform ledger op with
  | none forms => exact .inl (forms ▸ member)
  | addition added new forms =>
    rw [forms] at member
    rcases List.mem_append.mp member with earlier | here
    · exact .inl earlier
    · exact .inr (.inl (List.mem_singleton.mp here ▸ new))
  | change old edited caller _ within present _ date timed edit forms =>
    rw [forms] at member
    rcases of_mem_put member with rfl | ⟨earlier, -⟩
    · exact .inr (.inr ⟨old, within, present, date, timed, edit⟩)
    · exact .inl earlier

/-! ## Looking a survey up -/

/-- The survey with an id. -/
def form? (ledger : Ledger) (id : Text) : Option Form :=
  ledger.forms.find? fun form => form.id = id

/-- The publication of the survey with an id. -/
def publication? (ledger : Ledger) (id : Text) : Option Publication :=
  ledger.publications.find? fun publication => publication.id = id

variable {id : Text} {form : Form}

theorem id_of_form? (held : ledger.form? id = some form) : form.id = id := by
  simpa using List.find?_some held

theorem mem_of_form? (held : ledger.form? id = some form) : form ∈ ledger.forms :=
  List.mem_of_find?_eq_some held

/-- Looking an item up among items of which one has been replaced. -/
private theorem find?_replaced {name : α → Text} (items : List α) (new : α) (wanted : Text) :
    ((items.map fun other => if name other = name new then new else other).find?
        fun item => name item = wanted) =
      (items.find? fun item => name item = wanted).map
        fun other => if name other = name new then new else other := by
  have unnamed : ((fun item => decide (name item = wanted)) ∘
      fun other => if name other = name new then new else other) =
      fun item => decide (name item = wanted) := by
    funext other
    simp only [Function.comp_apply]
    split
    · rename_i same
      rw [same]
    · rfl
  rw [List.find?_map, unnamed]

theorem form?_put (ledger : Ledger) (new : Form) (id : Text) :
    (ledger.put new).form? id =
      (ledger.form? id).map fun other => if other.id = new.id then new else other :=
  find?_replaced ledger.forms new id

/-- Publishing a survey leaves the publications of all others as they are. -/
theorem publication?_published (ledger : Ledger) (new : Publication) (other : new.id ≠ id) :
    (ledger.published new).publication? id = ledger.publication? id := by
  simp only [publication?, published]
  split
  · rw [find?_replaced]
    cases found : ledger.publications.find? fun publication => publication.id = id with
    | none => rfl
    | some publication =>
      have named : publication.id = id := by simpa using List.find?_some found
      rw [Option.map_some, if_neg (named ▸ other.symm)]
  · rw [List.find?_append, List.find?_singleton, decide_eq_false other]
    simp

/-- What has just been published is the publication of its survey. -/
theorem publication?_published_self (ledger : Ledger) (new : Publication) :
    (ledger.published new).publication? new.id = some new := by
  simp only [publication?, published]
  split
  · rename_i there
    rw [find?_replaced]
    obtain ⟨old, member, same⟩ := List.any_eq_true.mp there
    cases found : ledger.publications.find? fun publication => publication.id = new.id with
    | none => exact absurd same (List.find?_eq_none.mp found old member)
    | some publication =>
      have named : publication.id = new.id := by simpa using List.find?_some found
      rw [Option.map_some, if_pos named]
  · rename_i absent
    have missed :
        ledger.publications.find? (fun publication => publication.id = new.id) = none := by
      simpa using absent
    rw [List.find?_append, missed, List.find?_singleton]
    simp

end Ledger
end SurveyDesk.Survey
