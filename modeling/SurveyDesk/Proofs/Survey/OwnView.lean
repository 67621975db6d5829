import SurveyDesk.Proofs.Survey.Lookup

/-! What a ledger holds for one user: the user's surveys with all that belongs to them in order, and
of everybody else's surveys no more than who owns them and whether they are removed. Operations of
the user read nothing else, and what they write changes nothing else. -/
namespace SurveyDesk.Survey

/-- An operation of a user on the user's own behalf, which names a survey by a scalar if it names
one. -/
def Op.IsBy (user : Text) : Op → Prop
  | .add _ _ _ caller _ | .list _ _ _ _ caller => caller.id = user
  | .create _ _ _ _ id caller | .update id _ _ caller | .delete id caller
  | .saveConfig id _ caller | .get id caller | .publish id caller | .data id caller _ _ _ =>
    caller.id = user ∧ id.isKey = true
  | .addResponse _ _ | .bannerData _ | .addHistory _ _ _ _ | .historyList _ _ | .wait _ |
    .pace _ => False

/-- Whether a survey is a user's. -/
def Form.isOf (user : Text) (form : Form) : Bool := form.owner.id = user

/-- What others can tell of a survey by naming it. -/
def Form.mark (form : Form) : Text × Text × Bool := (form.id, form.owner.id, form.isRemoved)

/-- Whether a response names one of several surveys. -/
def Response.isTo (ids : List Text) (response : Response) : Bool :=
  match response.survey with
  | .str id => id ∈ ids
  | _ => false

namespace Ledger

/-- The surveys of a user. -/
def ownForms (ledger : Ledger) (user : Text) : List Form := ledger.forms.filter (·.isOf user)

/-- The ids of a user's surveys. -/
def ownIds (ledger : Ledger) (user : Text) : List Text := (ledger.ownForms user).map Form.id

/-- The publications of a user's surveys. -/
def ownPublications (ledger : Ledger) (user : Text) : List Publication :=
  ledger.publications.filter (·.id ∈ ledger.ownIds user)

/-- The responses to a user's surveys. -/
def ownResponses (ledger : Ledger) (user : Text) : List Response :=
  ledger.responses.filter (·.isTo (ledger.ownIds user))

/-- What a user can tell of the surveys of all others. -/
def otherMarks (ledger : Ledger) (user : Text) : List (Text × Text × Bool) :=
  (ledger.forms.filter (!·.isOf user)).map Form.mark

/-- Two ledgers hold the same for a user. -/
structure SameFor (user : Text) (left right : Ledger) : Prop where
  forms : left.ownForms user = right.ownForms user
  publications : left.ownPublications user = right.ownPublications user
  responses : left.ownResponses user = right.ownResponses user
  others : ∀ mark, mark ∈ left.otherMarks user ↔ mark ∈ right.otherMarks user
  time : left.time = right.time
  idsGiven : left.idsGiven = right.idsGiven

variable {left right ledger : Ledger} {user : Text}

theorem SameFor.symm (same : SameFor user left right) : SameFor user right left where
  forms := same.forms.symm
  publications := same.publications.symm
  responses := same.responses.symm
  others mark := (same.others mark).symm
  time := same.time.symm
  idsGiven := same.idsGiven.symm

theorem SameFor.ids (same : SameFor user left right) : left.ownIds user = right.ownIds user :=
  congrArg (List.map Form.id) same.forms

theorem SameFor.now (same : SameFor user left right) : left.now = right.now := by
  rw [Ledger.now, Ledger.now, same.time]

/-- A reading of the clock keeps two ledgers the same for the user. -/
theorem SameFor.read (same : SameFor user left right) : SameFor user left.read right.read :=
  { same with time := congrArg Time.read same.time }

theorem SameFor.nextId (same : SameFor user left right) : left.nextId = right.nextId := by
  rw [Ledger.nextId, Ledger.nextId, same.idsGiven]

theorem mem_ownForms :
    form ∈ ledger.ownForms user ↔ form ∈ ledger.forms ∧ form.owner.id = user := by
  rw [ownForms, List.mem_filter, Form.isOf, decide_eq_true_eq]

theorem mem_otherMarks {mark : Text × Text × Bool} : mark ∈ ledger.otherMarks user ↔
    ∃ form ∈ ledger.forms, form.owner.id ≠ user ∧ form.mark = mark := by
  simp only [otherMarks, List.mem_map, List.mem_filter, Form.isOf, Bool.not_eq_true',
    decide_eq_false_iff_not, and_assoc]

theorem mem_ownIds (member : form ∈ ledger.forms) (mine : form.owner.id = user) :
    form.id ∈ ledger.ownIds user :=
  List.mem_map_of_mem (mem_ownForms.mpr ⟨member, mine⟩)

theorem mem_ownIds_iff (sound : ledger.Sound) (member : form ∈ ledger.forms) :
    form.id ∈ ledger.ownIds user ↔ form.owner.id = user := by
  constructor
  · intro named
    obtain ⟨other, own, same⟩ := List.mem_map.mp named
    obtain ⟨there, mine⟩ := mem_ownForms.mp own
    rwa [← sound.eq_of_id member there same]
  · exact mem_ownIds member

theorem nodup_ownIds (sound : ledger.Sound) : (ledger.ownIds user).Nodup :=
  sound.distinct.sublist (List.filter_sublist.map _)

/-! ## Naming a survey -/

/-- Whoever names a survey learns no more of it than that it is somebody else's, unless the survey
is the user's own. -/
theorem SameFor.counterpart (same : SameFor user left right) (member : form ∈ left.forms) :
    ∃ other ∈ right.forms, other.mark = form.mark ∧ (form.owner.id = user → other = form) := by
  by_cases mine : form.owner.id = user
  · have shared : form ∈ right.ownForms user := same.forms ▸ mem_ownForms.mpr ⟨member, mine⟩
    exact ⟨form, (mem_ownForms.mp shared).1, rfl, fun _ => rfl⟩
  · have listed := (same.others form.mark).mp (mem_otherMarks.mpr ⟨form, member, mine, rfl⟩)
    obtain ⟨other, present, _, marked⟩ := mem_otherMarks.mp listed
    exact ⟨other, present, marked, fun own => absurd own mine⟩

theorem own_of_mem (sound : ledger.Sound) (member : form ∈ ledger.forms) (caller : Caller) :
    ledger.own (.str form.id) caller =
      if form.isRemoved then .error (missing (.str form.id))
      else if form.owner.id = caller.id then .ok form else .error notAllowed := by
  have named : (fun other : Form => (Value.str other.id).equals (.str form.id)) =
      fun other => decide (other.id = form.id) := funext fun other => Value.text_equals_text _ _
  have found : Store.firstNamed Form.id (.str form.id) ledger.forms = .ok (some form) := by
    rw [Store.firstNamed_key rfl, named, Keyed.find?_of_mem sound.distinct member]
  rw [own, seek, found]
  dsimp only
  cases form.isRemoved <;> rfl

theorem own_of_absent {id : Value} (key : id.isKey = true)
    (absent : ∀ form ∈ ledger.forms, id ≠ .str form.id) (caller : Caller) :
    ledger.own id caller = .error (missing id) := by
  have missed : ledger.forms.find? (fun form => (Value.str form.id).equals id) = none :=
    List.find?_eq_none.mpr fun form member same =>
      absent form member (Value.text_equals_iff.mp same)
  rw [own, seek, Store.firstNamed_key key, missed]

/-- A user's lookup of a survey by a key has the same outcome in both ledgers. -/
theorem SameFor.own_eq {id : Value} (same : SameFor user left right) (leftSound : left.Sound)
    (rightSound : right.Sound) (key : id.isKey = true) (mine : caller.id = user) :
    left.own id caller = right.own id caller := by
  by_cases present : ∃ form ∈ left.forms, id = .str form.id
  · obtain ⟨form, member, rfl⟩ := present
    obtain ⟨other, there, marked, own⟩ := same.counterpart member
    obtain ⟨sameId, sameOwner, sameRemoved⟩ : other.id = form.id ∧
        other.owner.id = form.owner.id ∧ other.isRemoved = form.isRemoved := by
      simpa only [Form.mark, Prod.mk.injEq] using marked
    rw [own_of_mem leftSound member, ← sameId, own_of_mem rightSound there, sameOwner, sameRemoved]
    by_cases owned : form.owner.id = user
    · rw [own owned]
    · rw [← mine] at owned
      simp only [if_neg owned]
  · have absent : ∀ form ∈ left.forms, id ≠ .str form.id :=
      fun form member named => present ⟨form, member, named⟩
    have missed : ∀ form ∈ right.forms, id ≠ .str form.id := by
      intro form member named
      obtain ⟨other, there, marked, _⟩ := same.symm.counterpart member
      exact absent other there (named.trans (congrArg Value.str (congrArg Prod.fst marked).symm))
    rw [own_of_absent key absent, own_of_absent key missed]

/-! ## Writing to a survey -/

/-- Whoever has a survey's id is the survey's user. -/
def IdIsOf (ledger : Ledger) (user id : Text) : Prop :=
  ∀ form ∈ ledger.forms, form.id = id → form.owner.id = user

theorem idIsOf_of_mem (sound : ledger.Sound) (member : form ∈ ledger.forms)
    (mine : form.owner.id = user) : ledger.IdIsOf user form.id := by
  intro other there named
  rw [sound.eq_of_id member there named]
  exact mine

theorem isOf_replaced {new : Form} (mine : new.owner.id = user) (only : ledger.IdIsOf user new.id)
    (member : form ∈ ledger.forms) :
    (if form.id = new.id then new else form).isOf user = form.isOf user := by
  split
  · rename_i here
    rw [Form.isOf, Form.isOf, only form member here, mine]
  · rfl

theorem ownForms_put {new : Form} (mine : new.owner.id = user) (only : ledger.IdIsOf user new.id) :
    (ledger.put new).ownForms user =
      (ledger.ownForms user).map fun form => if form.id = new.id then new else form := by
  rw [ownForms, put, List.filter_map, ownForms]
  refine congrArg _ (List.filter_congr fun form member => ?_)
  exact isOf_replaced mine only member

theorem ownIds_put {new : Form} (mine : new.owner.id = user) (only : ledger.IdIsOf user new.id) :
    (ledger.put new).ownIds user = ledger.ownIds user := by
  rw [ownIds, ownForms_put mine only, ownIds]
  exact Keyed.names_replaced Form.id _ new

theorem otherMarks_put {new : Form} (mine : new.owner.id = user)
    (only : ledger.IdIsOf user new.id) :
    (ledger.put new).otherMarks user = ledger.otherMarks user := by
  rw [otherMarks, put, List.filter_map, otherMarks, List.map_map]
  have kept : ledger.forms.filter
      ((fun form => !form.isOf user) ∘ fun form => if form.id = new.id then new else form) =
      ledger.forms.filter (!·.isOf user) :=
    List.filter_congr fun form member => congrArg not (isOf_replaced mine only member)
  rw [kept]
  refine List.map_congr_left fun form member => ?_
  obtain ⟨there, foreign⟩ := List.mem_filter.mp member
  have apart : form.id ≠ new.id := by
    intro here
    simp [Form.isOf, only form there here] at foreign
  simp only [Function.comp_apply, if_neg apart]

/-- Putting a survey of the user's own in place keeps two ledgers the same for the user. -/
theorem SameFor.put {new : Form} (same : SameFor user left right) (mine : new.owner.id = user)
    (leftOnly : left.IdIsOf user new.id) (rightOnly : right.IdIsOf user new.id) :
    SameFor user (left.put new) (right.put new) where
  forms := by rw [ownForms_put mine leftOnly, ownForms_put mine rightOnly, same.forms]
  publications := by
    simp only [ownPublications, ownIds_put mine leftOnly, ownIds_put mine rightOnly]
    exact same.publications
  responses := by
    simp only [ownResponses, ownIds_put mine leftOnly, ownIds_put mine rightOnly]
    exact same.responses
  others mark := by
    rw [otherMarks_put mine leftOnly, otherMarks_put mine rightOnly]
    exact same.others mark
  time := same.time
  idsGiven := same.idsGiven

private theorem filter_published {within : Publication → Bool} {publication : Publication}
    (kept : ∀ other : Publication, other.id = publication.id → within other = true)
    (publications : List Publication) :
    (if publications.any (·.id = publication.id) then
        publications.map fun other => if other.id = publication.id then publication else other
      else publications ++ [publication]).filter within =
    if (publications.filter within).any (·.id = publication.id) then
      (publications.filter within).map fun other =>
        if other.id = publication.id then publication else other
    else publications.filter within ++ [publication] := by
  have any : (publications.filter within).any (·.id = publication.id) =
      publications.any (·.id = publication.id) := by
    rw [List.any_filter]
    refine List.any_congr rfl fun other => ?_
    by_cases named : other.id = publication.id
    · rw [kept other named, Bool.true_and]
    · simp [named]
  have same : (fun other : Publication =>
      within (if other.id = publication.id then publication else other)) = within := by
    funext other
    split
    · rw [kept publication rfl, kept other ‹_›]
    · rfl
  rw [any]
  split
  · rw [List.filter_map]
    exact congrArg _ (congrFun (congrArg _ same) _)
  · rw [List.filter_append, List.filter_cons_of_pos (kept publication rfl), List.filter_nil]

/-- Publishing a survey of the user's own keeps two ledgers the same for the user. -/
theorem SameFor.published {publication : Publication} (same : SameFor user left right)
    (mine : publication.id ∈ left.ownIds user) :
    SameFor user (left.published publication) (right.published publication) where
  forms := same.forms
  publications := by
    have kept : ∀ other : Publication, other.id = publication.id →
        decide (other.id ∈ left.ownIds user) = true :=
      fun other named => decide_eq_true (named ▸ mine)
    have rightKept : ∀ other : Publication, other.id = publication.id →
        decide (other.id ∈ right.ownIds user) = true := same.ids ▸ kept
    have leftOwn := filter_published kept left.publications
    have rightOwn := filter_published rightKept right.publications
    have shared := same.publications
    simp only [ownPublications] at shared
    rw [shared] at leftOwn
    exact leftOwn.trans rightOwn.symm
  responses := same.responses
  others := same.others
  time := same.time
  idsGiven := same.idsGiven

/-! ## Adding a survey -/

section
variable (title remark questionType : Value) {caller : Caller} (code : Option Value)

theorem ownForms_added (mine : caller.id = user) :
    (ledger.added title remark questionType caller code).ownForms user =
      ledger.ownForms user ++
        [.fresh ledger.nextId title remark questionType caller code ledger.now] := by
  have own : (Form.fresh ledger.nextId title remark questionType caller code ledger.now).isOf
      user = true := by
    rw [Form.isOf, Form.fresh]
    exact decide_eq_true mine
  rw [ownForms, added, List.filter_append, List.filter_cons_of_pos own, List.filter_nil, ownForms]

theorem ownIds_added (mine : caller.id = user) :
    (ledger.added title remark questionType caller code).ownIds user =
      ledger.ownIds user ++ [ledger.nextId] := by
  rw [ownIds, ownForms_added title remark questionType code mine, List.map_append]
  rfl

/-- The new survey was neither published nor responded to before it was added. -/
theorem ownPublications_added (sound : ledger.Sound) (mine : caller.id = user) :
    (ledger.added title remark questionType caller code).ownPublications user =
      ledger.ownPublications user := by
  rw [ownPublications, ownIds_added title remark questionType code mine, ownPublications]
  refine List.filter_congr fun publication member => ?_
  have apart : publication.id ≠ ledger.nextId := fun named =>
    fresh_nextId sound (named ▸ sound.published publication member)
  simp [apart]

theorem ownResponses_added (sound : ledger.Sound) (mine : caller.id = user) :
    (ledger.added title remark questionType caller code).ownResponses user =
      ledger.ownResponses user := by
  rw [ownResponses, ownIds_added title remark questionType code mine, ownResponses]
  refine List.filter_congr fun response member => ?_
  unfold Response.isTo
  split
  · rename_i id named
    have apart : id ≠ ledger.nextId := fun here =>
      fresh_nextId sound (here ▸ sound.responded response member id named)
    simp [apart]
  · rfl

theorem otherMarks_added (mine : caller.id = user) :
    (ledger.added title remark questionType caller code).otherMarks user =
      ledger.otherMarks user := by
  have own : [Form.fresh ledger.nextId title remark questionType caller code ledger.now].filter
      (!·.isOf user) = [] := by
    simp [Form.isOf, Form.fresh, mine]
  rw [otherMarks, added, List.filter_append, own, List.append_nil, otherMarks]

/-- Adding a survey keeps two ledgers the same for the user. -/
theorem SameFor.added (same : SameFor user left right) (leftSound : left.Sound)
    (rightSound : right.Sound) (mine : caller.id = user) :
    SameFor user (left.added title remark questionType caller code)
      (right.added title remark questionType caller code) where
  forms := by
    rw [ownForms_added title remark questionType code mine,
      ownForms_added title remark questionType code mine, same.forms, same.nextId, same.now]
  publications := by
    rw [ownPublications_added title remark questionType code leftSound mine,
      ownPublications_added title remark questionType code rightSound mine, same.publications]
  responses := by
    rw [ownResponses_added title remark questionType code leftSound mine,
      ownResponses_added title remark questionType code rightSound mine, same.responses]
  others mark := by
    rw [otherMarks_added title remark questionType code mine,
      otherMarks_added title remark questionType code mine]
    exact same.others mark
  time := congrArg Time.read same.time
  idsGiven := congrArg (· + 1) same.idsGiven

end

/-! ## Reading -/

theorem SameFor.listedFor_eq (same : SameFor user left right) (mine : caller.id = user) :
    left.listedFor caller = right.listedFor caller := by
  have own : ∀ ledger : Ledger, ledger.forms.filter (·.isListedFor caller) =
      (ledger.ownForms user).filter (!·.isRemoved) := by
    intro ledger
    rw [ownForms, List.filter_filter]
    refine List.filter_congr fun form _ => ?_
    rw [Form.isListedFor, Form.isOf, mine, Bool.and_comm]
  rw [listedFor, listedFor, own, own, same.forms]

theorem SameFor.list_eq (same : SameFor user left right) (mine : caller.id = user)
    (number size : Int) (predicate : Value) (order : SortSpec) :
    left.list number size predicate order caller =
      right.list number size predicate order caller := by
  rw [list, list, same.listedFor_eq mine]

/-- The publication that a text names is found among those of its survey's owner. -/
theorem firstPublication_own (id : Text) (mine : id ∈ ledger.ownIds user) :
    Store.firstNamed Publication.id (.str id) ledger.publications =
      .ok ((ledger.ownPublications user).find? (·.id = id)) := by
  rw [Store.firstNamed_key rfl, ownPublications, List.find?_filter]
  refine congrArg Except.ok (congrFun (congrArg _ (funext fun publication => ?_)) _)
  rw [Value.text_equals_text]
  by_cases named : publication.id = id
  · simp [named, mine]
  · simp [named]

theorem holds_pageId (id : Text) (response : Response) :
    Predicate.holds response.document.named (having "pageId" (.str id)) =
      .ok (response.isTo [id]) := by
  have survey : (Value.object response.entries).get? "pageId" = some response.survey := rfl
  rw [Response.named_document, having, Store.holds_single plain_pageId, survey,
    Store.expectedHolds_key rfl, Except.ok.injEq, Bool.eq_iff_iff, Value.equals_text_iff]
  unfold Response.isTo
  split
  · rename_i text named
    simp [named]
  · rename_i other
    exact ⟨fun named => absurd named (other id), fun never => by cases never⟩

theorem pageOf_responses_own (id : Text) (mine : id ∈ ledger.ownIds user) (sort : SortSpec)
    (number size : Int) :
    Store.pageOf (having "pageId" (.str id)) sort number size none
        (ledger.responses.map Response.document) =
      Store.pageOf (having "pageId" (.str id)) sort number size none
        ((ledger.ownResponses user).map Response.document) := by
  have kept : (ledger.ownResponses user).filter (·.isTo [id]) =
      ledger.responses.filter (·.isTo [id]) := by
    rw [ownResponses, List.filter_filter]
    refine List.filter_congr fun response _ => ?_
    unfold Response.isTo
    split
    · rename_i text named
      by_cases here : text = id
      · simp [here, mine]
      · simp [here]
    · rfl
  rw [Store.pageOf, Store.pageOf, Store.hits_decided (holds_pageId id),
    Store.hits_decided (holds_pageId id), kept]

theorem SameFor.sheet_eq {id : Value} (same : SameFor user left right) (leftSound : left.Sound)
    (rightSound : right.Sound) (key : id.isKey = true) (mine : caller.id = user) (hide : Bool)
    (number size : Int) :
    left.sheet id caller hide number size = right.sheet id caller hide number size := by
  rw [sheet, sheet, same.own_eq leftSound rightSound key mine]
  cases owned : right.own id caller with
  | error fault => rfl
  | ok form =>
    obtain rfl := eq_id_of_own key owned
    have member := mem_of_own owned
    have own : form.id ∈ right.ownIds user :=
      mem_ownIds member ((own_ok owned).2.trans mine)
    have leftOwn : form.id ∈ left.ownIds user := same.ids ▸ own
    have leftContent :=
      contentNamed_of_own leftSound key ((same.own_eq leftSound rightSound key mine).trans owned)
    have rightContent := contentNamed_of_own rightSound key owned
    simp only [ok_bind, firstPublication_own form.id own, firstPublication_own form.id leftOwn,
      pageOf_responses_own form.id own, pageOf_responses_own form.id leftOwn, leftContent,
      rightContent, same.publications, same.responses]

/-! ## All operations -/

/-- What is done at two ledgers has one answer and leaves them the same for a user. -/
def Indistinct (user : Text) (left right : Except Fault Reply × Ledger) : Prop :=
  left.1 = right.1 ∧ SameFor user left.2 right.2

theorem indistinct_withOwn {id : Value} {first second : Form → Except Fault Reply × Ledger}
    (same : SameFor user left right) (leftSound : left.Sound) (rightSound : right.Sound)
    (key : id.isKey = true) (mine : caller.id = user)
    (each : ∀ form, left.own id caller = .ok form → right.own id caller = .ok form →
      Indistinct user (first form) (second form)) :
    Indistinct user (left.withOwn id caller first) (right.withOwn id caller second) := by
  have agreed := same.own_eq leftSound rightSound key mine
  cases found : right.own id caller with
  | error fault =>
    rw [withOwn, withOwn, agreed, found]
    exact ⟨rfl, same⟩
  | ok form =>
    rw [withOwn, withOwn, agreed, found]
    exact each form (agreed.trans found) found

section
variable {form new : Form} {id : Value}

theorem SameFor.put_own (same : SameFor user left right) (leftSound : left.Sound)
    (rightSound : right.Sound) (mine : caller.id = user) (leftOwned : left.own id caller = .ok form)
    (rightOwned : right.own id caller = .ok form) (named : new.id = form.id)
    (kept : new.owner = form.owner) : SameFor user (left.read.put new) (right.read.put new) := by
  have owner : form.owner.id = user := (own_ok leftOwned).2.trans mine
  have leftOnly : left.IdIsOf user new.id :=
    named ▸ idIsOf_of_mem leftSound (mem_of_own leftOwned) owner
  have rightOnly : right.IdIsOf user new.id :=
    named ▸ idIsOf_of_mem rightSound (mem_of_own rightOwned) owner
  exact same.read.put (kept ▸ owner) leftOnly rightOnly

theorem indistinct_retitle {id : Value} (same : SameFor user left right) (leftSound : left.Sound)
    (rightSound : right.Sound) (mine : caller.id = user) (leftOwned : left.own id caller = .ok form)
    (rightOwned : right.own id caller = .ok form) (title remark : Value) :
    Indistinct user (left.retitle id title remark form) (right.retitle id title remark form) := by
  unfold retitle
  rw [← same.now]
  split
  · exact ⟨rfl, same.put_own leftSound rightSound mine leftOwned rightOwned rfl rfl⟩
  · exact ⟨rfl, same.read⟩

theorem indistinct_save {id : Value} (same : SameFor user left right) (leftSound : left.Sound)
    (rightSound : right.Sound) (mine : caller.id = user) (leftOwned : left.own id caller = .ok form)
    (rightOwned : right.own id caller = .ok form) (code : Value) :
    Indistinct user (left.save id code form) (right.save id code form) := by
  unfold save
  rw [← same.now]
  split
  · split
    · exact ⟨rfl, same⟩
    · exact ⟨rfl, same.put_own leftSound rightSound mine leftOwned rightOwned rfl rfl⟩
  · exact ⟨rfl, same⟩

theorem indistinct_publish {id : Value} (same : SameFor user left right) (leftSound : left.Sound)
    (rightSound : right.Sound) (key : id.isKey = true) (mine : caller.id = user)
    (leftOwned : left.own id caller = .ok form) (rightOwned : right.own id caller = .ok form) :
    Indistinct user (left.publish id form) (right.publish id form) := by
  unfold publish
  rw [contentNamed_of_own leftSound key leftOwned, contentNamed_of_own rightSound key rightOwned,
    ← same.now, ← same.read.now]
  cases form.content? with
  | none => exact ⟨rfl, same⟩
  | some content =>
    simp only [if_pos key]
    have owner : form.owner.id = user := (own_ok leftOwned).2.trans mine
    have member := mem_of_own leftOwned
    have published : SameFor user
        (left.read.read.published ⟨form.id, content.code, left.now⟩)
        (right.read.read.published ⟨form.id, content.code, left.now⟩) :=
      same.read.read.published (mem_ownIds member owner)
    have leftOnly : left.IdIsOf user form.id := idIsOf_of_mem leftSound member owner
    have rightOnly : right.IdIsOf user form.id :=
      idIsOf_of_mem rightSound (mem_of_own rightOwned) owner
    exact ⟨rfl, published.put owner leftOnly rightOnly⟩

theorem indistinct_documents {id : Value} (same : SameFor user left right) (leftSound : left.Sound)
    (rightSound : right.Sound) (key : id.isKey = true) (leftOwned : left.own id caller = .ok form)
    (rightOwned : right.own id caller = .ok form) :
    Indistinct user (left.documents id form, left) (right.documents id form, right) := by
  refine ⟨?_, same⟩
  simp only [documents, contentNamed_of_own leftSound key leftOwned,
    contentNamed_of_own rightSound key rightOwned]

end

theorem indistinct_add (same : SameFor user left right) (leftSound : left.Sound)
    (rightSound : right.Sound) (calls : Nat) (title remark questionType code : Value)
    (mine : caller.id = user) :
    Indistinct user (left.add calls title remark questionType caller code)
      (right.add calls title remark questionType caller code) := by
  have added := fun stored =>
    same.added title remark questionType stored leftSound rightSound mine
  simp only [add, same.nextId]
  split
  · exact ⟨rfl, added _⟩
  · exact ⟨rfl, added _⟩

theorem indistinct_copy (same : SameFor user left right) (leftSound : left.Sound)
    (rightSound : right.Sound) (title remark : Value) {source : Value} (key : source.isKey = true)
    (mine : caller.id = user) (leftOwned : left.own source caller = .ok form)
    (rightOwned : right.own source caller = .ok form) :
    Indistinct user (left.copy title remark source caller form)
      (right.copy title remark source caller form) := by
  rw [copy, copy, contentNamed_of_own leftSound key leftOwned,
    contentNamed_of_own rightSound key rightOwned]
  exact indistinct_add same leftSound rightSound _ _ _ _ _ mine

/-- Every operation of a user has one answer at ledgers that are the same for the user, and leaves
them so. -/
theorem indistinct_perform (same : SameFor user left right) (leftSound : left.Sound)
    (rightSound : right.Sound) (op : Op) (mine : op.IsBy user) :
    Indistinct user (left.perform op) (right.perform op) := by
  cases op with
  | add title remark questionType caller code =>
    exact indistinct_add same leftSound rightSound _ _ _ _ _ mine
  | create title remark questionType method source caller =>
    obtain ⟨mine, key⟩ := mine
    simp only [perform]
    split
    · exact indistinct_withOwn same leftSound rightSound key mine fun form leftOwned rightOwned =>
        indistinct_copy same leftSound rightSound title remark key mine leftOwned rightOwned
    · exact indistinct_add same leftSound rightSound _ _ _ _ _ mine
  | update id title remark caller =>
    obtain ⟨mine, key⟩ := mine
    exact indistinct_withOwn same leftSound rightSound key mine fun form leftOwned rightOwned =>
      indistinct_retitle same leftSound rightSound mine leftOwned rightOwned title remark
  | delete id caller =>
    obtain ⟨mine, key⟩ := mine
    refine indistinct_withOwn same leftSound rightSound key mine fun form leftOwned rightOwned => ?_
    rw [same.now]
    exact ⟨rfl, same.put_own leftSound rightSound mine leftOwned rightOwned rfl rfl⟩
  | list number size predicate order caller =>
    exact ⟨same.list_eq mine number size predicate order, same⟩
  | saveConfig id code caller =>
    obtain ⟨mine, key⟩ := mine
    exact indistinct_withOwn same leftSound rightSound key mine fun form leftOwned rightOwned =>
      indistinct_save same leftSound rightSound mine leftOwned rightOwned code
  | get id caller =>
    obtain ⟨mine, key⟩ := mine
    exact indistinct_withOwn same leftSound rightSound key mine fun form leftOwned rightOwned =>
      indistinct_documents same leftSound rightSound key leftOwned rightOwned
  | publish id caller =>
    obtain ⟨mine, key⟩ := mine
    exact indistinct_withOwn same leftSound rightSound key mine fun form leftOwned rightOwned =>
      indistinct_publish same leftSound rightSound key mine leftOwned rightOwned
  | data id caller hide number size =>
    obtain ⟨mine, key⟩ := mine
    exact ⟨same.sheet_eq leftSound rightSound key mine hide number size, same⟩
  | addResponse | bannerData | addHistory | historyList | wait | pace => cases mine

/-- Neither can any number of the user's operations tell the two apart. -/
theorem indistinct_run (same : SameFor user left right) (leftSound : left.Sound)
    (rightSound : right.Sound) (ops : List Op) (mine : ∀ op ∈ ops, op.IsBy user) :
    left.answers ops = right.answers ops ∧ SameFor user (left.run ops) (right.run ops) := by
  induction ops generalizing left right with
  | nil => exact ⟨rfl, same⟩
  | cons op rest ih =>
    obtain ⟨answer, after⟩ :=
      indistinct_perform same leftSound rightSound op (mine op List.mem_cons_self)
    obtain ⟨answers, later⟩ := ih after (sound_perform leftSound op) (sound_perform rightSound op)
      fun other member => mine other (List.mem_cons_of_mem _ member)
    refine ⟨?_, later⟩
    rw [Ledger.answers, Ledger.answers, answer, answers]

end Ledger
end SurveyDesk.Survey
