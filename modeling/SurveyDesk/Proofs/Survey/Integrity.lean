import Mathlib.Data.List.Nodup
import SurveyDesk.Proofs.Store.Copy
import SurveyDesk.Proofs.Survey.Bookkeeping

/-! What every ledger keeps: no two surveys have one id, no survey is published twice, only surveys
are published and responded to, there is room to copy every content again, and all ids were given
out by the desk, so that the next one is new. -/
namespace SurveyDesk.Survey

theorem idText_injective (same : idText first = idText second) : first = second := by
  have digits := congrArg String.toList ((String.append_right_inj "id").mp same)
  simp only [Nat.toString_eq_repr, Nat.toList_repr] at digits
  rw [← Nat.ofDigitChars_ten_toDigits (n := first), digits, Nat.ofDigitChars_ten_toDigits]

namespace Ledger

/-- The ids that have been given out. -/
def Gave (ledger : Ledger) (id : Text) : Prop := ∃ n ≤ ledger.idsGiven, id = idText n

theorem Gave.isWhole {ledger : Ledger} {id : Text} (gave : ledger.Gave id) : id.isWhole = true := by
  obtain ⟨n, -, rfl⟩ := gave
  rfl

theorem not_gave_nextId (ledger : Ledger) : ¬ ledger.Gave ledger.nextId := by
  rintro ⟨n, bound, same⟩
  have := idText_injective (Text.whole.inj same)
  omega

/-- The next id is none of those that have been given out. -/
theorem nodup_nextId {names : List Text} {ledger : Ledger} (distinct : names.Nodup)
    (given : ∀ name ∈ names, ledger.Gave name) : (names ++ [ledger.nextId]).Nodup := by
  refine List.nodup_append.mpr ⟨distinct, List.nodup_singleton _, ?_⟩
  rintro name earlier _ here rfl
  obtain rfl := List.mem_singleton.mp here
  exact ledger.not_gave_nextId (given _ earlier)

/-- The rules that no operation breaks. -/
structure Sound (ledger : Ledger) : Prop where
  distinct : (ledger.forms.map Form.id).Nodup
  forms : ∀ form ∈ ledger.forms, ledger.Gave form.id
  fits : ∀ form ∈ ledger.forms, ∀ code, form.code = some code → Copyable 4 code
  publishedOnce : (ledger.publications.map Publication.id).Nodup
  published : ∀ publication ∈ ledger.publications, publication.id ∈ ledger.forms.map Form.id
  responses : ∀ response ∈ ledger.responses, ledger.Gave response.id
  responded : ∀ response ∈ ledger.responses, ∀ id, response.survey = .str id →
    id ∈ ledger.forms.map Form.id
  snapshots : ∀ snapshot ∈ ledger.snapshots, ledger.Gave snapshot.id

theorem sound_opened (clock : Int) : (opened clock).Sound := by
  constructor <;> simp [opened]

variable {ledger : Ledger}

/-- Surveys with one id are one survey. -/
theorem Sound.eq_of_id (sound : ledger.Sound) (first : form ∈ ledger.forms)
    (second : other ∈ ledger.forms) (same : other.id = form.id) : other = form :=
  List.inj_on_of_nodup_map sound.distinct second first same

theorem seek_mem {id : Value} (found : ledger.seek id = .ok form) :
    form ∈ ledger.forms ∧ form.isRemoved = false ∧
      Predicate.expectedHolds (some (.str form.id)) id = .ok true ∧
      Store.firstNamed Form.id id ledger.forms = .ok (some form) := by
  unfold seek at found
  split at found
  · cases found
  · cases found
  · rename_i other first
    split at found
    · cases found
    · rename_i present
      cases found
      obtain ⟨member, holds⟩ := Store.firstNamed_some first
      exact ⟨member, by simpa using present, holds, first⟩

theorem own_ok {id : Value} (owned : ledger.own id caller = .ok form) :
    ledger.seek id = .ok form ∧ form.owner.id = caller.id := by
  unfold own at owned
  split at owned
  · cases owned
  · rename_i other found
    split at owned
    · rename_i same
      cases owned
      exact ⟨found, same⟩
    · cases owned

theorem mem_of_own {id : Value} (owned : ledger.own id caller = .ok form) : form ∈ ledger.forms :=
  (seek_mem (own_ok owned).1).1

/-- What is a key and leads to a survey is the survey's id. -/
theorem eq_id_of_own {id : Value} (key : id.isKey = true)
    (owned : ledger.own id caller = .ok form) : id = .str form.id :=
  Store.eq_name_of_expectedHolds key (seek_mem (own_ok owned).1).2.2.1

@[simp] theorem ids_put (ledger : Ledger) (form : Form) :
    (ledger.put form).forms.map Form.id = ledger.forms.map Form.id :=
  Keyed.names_replaced Form.id ledger.forms form

/-- What is there once a survey has been put in place of the one with its id. -/
theorem of_mem_put {other edited : Form} (member : other ∈ (ledger.put edited).forms) :
    other = edited ∨ other ∈ ledger.forms ∧ other.id ≠ edited.id := by
  obtain ⟨old, earlier, made⟩ := List.mem_map.mp member
  split at made
  · exact .inl made.symm
  · rename_i different
    exact .inr ⟨made ▸ earlier, made ▸ different⟩

/-- What is published once a publication has been made: that one, or one of those before. -/
theorem of_mem_published {publication other : Publication}
    (member : other ∈ (ledger.published publication).publications) :
    other = publication ∨ other ∈ ledger.publications := by
  simp only [published] at member
  split at member
  · obtain ⟨old, earlier, made⟩ := List.mem_map.mp member
    split at made
    · exact .inl made.symm
    · exact .inr (made ▸ earlier)
  · rcases List.mem_append.mp member with earlier | here
    · exact .inr earlier
    · exact .inl (List.mem_singleton.mp here)

theorem mem_ids_of_mem (member : form ∈ ledger.forms) : form.id ∈ ledger.forms.map Form.id :=
  List.mem_map_of_mem member

theorem gave_of_mem_ids {id : Text} (sound : ledger.Sound)
    (member : id ∈ ledger.forms.map Form.id) :
    ledger.Gave id := by
  obtain ⟨form, within, rfl⟩ := List.mem_map.mp member
  exact sound.forms form within

theorem Gave.later {id : Text} (gave : Gave ledger id) (more : ledger.idsGiven ≤ after.idsGiven) :
    Gave after id := by
  obtain ⟨n, bound, same⟩ := gave
  exact ⟨n, Nat.le_trans bound more, same⟩

theorem sound_put (sound : ledger.Sound) (form : Form)
    (fits : ∀ code, form.code = some code → Copyable 4 code) : (ledger.put form).Sound where
  distinct := by rw [ids_put]; exact sound.distinct
  forms other member := by
    have within : other.id ∈ ledger.forms.map Form.id := ids_put ledger form ▸ mem_ids_of_mem member
    exact (gave_of_mem_ids sound within).later (Nat.le_refl _)
  fits other member := by
    rcases of_mem_put member with rfl | ⟨earlier, -⟩
    · exact fits
    · exact sound.fits other earlier
  publishedOnce := sound.publishedOnce
  published publication member := by
    rw [ids_put]
    exact sound.published publication member
  responses := sound.responses
  responded response member id named := by
    rw [ids_put]
    exact sound.responded response member id named
  snapshots := sound.snapshots

theorem sound_published (sound : ledger.Sound) (publication : Publication)
    (member : publication.id ∈ ledger.forms.map Form.id) :
    (ledger.published publication).Sound where
  distinct := sound.distinct
  forms := sound.forms
  fits := sound.fits
  publishedOnce := by
    simp only [Ledger.published]
    split
    · rw [Keyed.names_replaced Publication.id]
      exact sound.publishedOnce
    · rename_i absent
      rw [List.map_append, List.nodup_append]
      refine ⟨sound.publishedOnce, by simp, ?_⟩
      intro first earlier second here same
      simp only [List.map_cons, List.map_nil, List.mem_singleton] at here
      obtain ⟨other, within, rfl⟩ := List.mem_map.mp earlier
      simp only [List.any_eq_true, decide_eq_true_eq, not_exists, not_and] at absent
      exact absent other within (same.trans here)
  published other within := by
    simp only [Ledger.published] at within ⊢
    split at within
    · have old : other.id ∈ ledger.publications.map Publication.id :=
        Keyed.names_replaced Publication.id ledger.publications publication ▸
          List.mem_map_of_mem within
      obtain ⟨earlier, present, same⟩ := List.mem_map.mp old
      exact same ▸ sound.published earlier present
    · rcases List.mem_append.mp within with present | here
      · exact sound.published other present
      · rw [List.mem_singleton.mp here]
        exact member
  responses := sound.responses
  responded := sound.responded
  snapshots := sound.snapshots

/-- Giving out ids and letting time pass breaks no rule. -/
theorem Sound.later {given : Nat} (sound : ledger.Sound) (time : Time)
    (more : ledger.idsGiven ≤ given) : Sound { ledger with time, idsGiven := given } where
  distinct := sound.distinct
  forms form member := (sound.forms form member).later more
  fits := sound.fits
  publishedOnce := sound.publishedOnce
  published := sound.published
  responses response member := (sound.responses response member).later more
  responded := sound.responded
  snapshots snapshot member := (sound.snapshots snapshot member).later more

theorem fresh_nextId (sound : ledger.Sound) : ledger.nextId ∉ ledger.forms.map Form.id :=
  fun member => ledger.not_gave_nextId (gave_of_mem_ids sound member)

theorem gave_nextId (ledger : Ledger) (forms : List Form) (publications : List Publication)
    (responses : List Response) (snapshots : List Snapshot) :
    Gave ⟨forms, publications, responses, snapshots, ledger.time.read, ledger.idsGiven + 1⟩
      ledger.nextId :=
  ⟨ledger.idsGiven + 1, Nat.le_refl _, rfl⟩

/-- A reading of the clock breaks no rule. -/
theorem sound_read (sound : ledger.Sound) : ledger.read.Sound := sound.later _ (Nat.le_refl _)

theorem sound_added (sound : ledger.Sound) (title remark questionType : Value) (caller : Caller)
    {code : Option Value} (fits : ∀ given, code = some given → Copyable 4 given) :
    (ledger.added title remark questionType caller code).Sound := by
  have later := sound.later ledger.time.read (Nat.le_succ ledger.idsGiven)
  refine { later with distinct := ?_, forms := ?_, fits := ?_, published := ?_, responded := ?_ }
  · rw [added, List.map_append]
    exact nodup_nextId sound.distinct (List.forall_mem_map.mpr sound.forms)
  · intro form member
    rcases List.mem_append.mp member with earlier | here
    · exact later.forms form earlier
    · rw [List.mem_singleton.mp here]
      exact gave_nextId ledger _ _ _ _
  · intro form member
    rcases List.mem_append.mp member with earlier | here
    · exact sound.fits form earlier
    · rw [List.mem_singleton.mp here]
      exact fits
  · intro publication member
    simp only [added, List.map_append]
    exact List.mem_append_left _ (sound.published publication member)
  · intro response member id named
    simp only [added, List.map_append]
    exact List.mem_append_left _ (sound.responded response member id named)

theorem sound_add (sound : ledger.Sound) (within : 2 ≤ calls) (title remark questionType : Value)
    (caller : Caller) (code : Value) :
    (ledger.add calls title remark questionType caller code).2.Sound := by
  simp only [add]
  split
  · rename_i copyable
    refine sound_added sound title remark questionType caller fun given same => ?_
    cases same
    exact copyable.mono (Nat.add_le_add_right within 2)
  · exact sound_added sound title remark questionType caller fun _ same =>
      absurd same.symm (Option.some_ne_none _)

theorem sound_addResponse (sound : ledger.Sound) (id answers : Value) :
    (ledger.addResponse id answers).2.Sound := by
  have later := sound.later ledger.time.read (Nat.le_succ ledger.idsGiven)
  unfold addResponse
  split
  · rename_i form found
    dsimp only
    split
    · refine { later with responses := ?_, responded := ?_ }
      · intro response member
        rcases List.mem_append.mp member with earlier | here
        · exact later.responses response earlier
        · rw [List.mem_singleton.mp here]
          exact gave_nextId ledger _ _ _ _
      · intro response member text named
        rcases List.mem_append.mp member with earlier | here
        · exact sound.responded response earlier text named
        · rw [List.mem_singleton.mp here] at named
          obtain rfl : id = .str text := named
          obtain ⟨present, -, holds, -⟩ := seek_mem found
          have same := Store.eq_name_of_expectedHolds rfl holds
          cases same
          exact mem_ids_of_mem present
    · exact later
  · exact sound

theorem sound_addHistory (sound : ledger.Sound) (survey code type : Value) (caller : Caller) :
    (ledger.addHistory survey code type caller).2.Sound := by
  unfold addHistory
  split
  · have later := sound.later ledger.time.read (Nat.le_succ ledger.idsGiven)
    dsimp only
    split
    · refine { later with snapshots := ?_ }
      intro snapshot member
      rcases List.mem_append.mp member with earlier | here
      · exact later.snapshots snapshot earlier
      · rw [List.mem_singleton.mp here]
        exact gave_nextId ledger _ _ _ _
    · exact later
  · exact sound.later ledger.time (Nat.le_succ ledger.idsGiven)

theorem sound_withOwn {id : Value} {work : Form → Except Fault Reply × Ledger}
    (sound : ledger.Sound)
    (kept : ∀ form, ledger.own id caller = .ok form → (work form).2.Sound) :
    (ledger.withOwn id caller work).2.Sound := by
  unfold withOwn
  split
  · exact kept _ ‹_›
  · exact sound

theorem sound_retitle (sound : ledger.Sound) (id title remark : Value)
    (member : form ∈ ledger.forms) : (ledger.retitle id title remark form).2.Sound := by
  unfold retitle
  split
  · exact sound_put (sound_read sound) _ (sound.fits form member)
  · exact sound_read sound

/-- Content that is saved can be copied again, unless there is nothing whose place it takes. -/
theorem fits_rewritten {form : Form} {code : Value}
    (fits : ¬ (form.code.isSome ∧ ¬ Copyable 4 code)) (given : Value)
    (same : (form.rewritten code).code = some given) : Copyable 4 given := by
  obtain ⟨old, there, rfl⟩ := Option.map_eq_some_iff.mp same
  by_contra deep
  exact fits ⟨there ▸ rfl, deep⟩

theorem sound_save (sound : ledger.Sound) (id code : Value) (form : Form) :
    (ledger.save id code form).2.Sound := by
  unfold save
  split
  · split
    · exact sound
    · rename_i copyable
      exact sound_put (sound_read sound) _ (fits_rewritten copyable)
  · exact sound

theorem sound_copy (sound : ledger.Sound) (title remark source : Value) (form : Form) :
    (ledger.copy title remark source caller form).2.Sound := by
  unfold copy
  split
  · exact sound
  · exact sound_add sound (by decide) _ _ _ _ _

theorem sound_publish (sound : ledger.Sound) (id : Value) (member : form ∈ ledger.forms) :
    (ledger.publish id form).2.Sound := by
  unfold publish
  split
  · exact sound
  · exact sound
  · split
    · have read := sound_read (sound_read sound)
      exact sound_put (sound_published read _ (mem_ids_of_mem member)) _ (sound.fits form member)
    · exact sound_read sound

/-- Every operation keeps the rules. -/
theorem sound_perform (sound : ledger.Sound) (op : Op) : (ledger.perform op).2.Sound := by
  cases op with
  | add title remark questionType caller code => exact sound_add sound (by decide) _ _ _ _ _
  | create title remark questionType method source caller =>
    simp only [perform]
    split
    · exact sound_withOwn sound fun form _ => sound_copy sound title remark source form
    · exact sound_add sound (by decide) _ _ _ _ _
  | update id title remark caller =>
    exact sound_withOwn sound fun form owned => sound_retitle sound _ _ _ (mem_of_own owned)
  | delete id caller =>
    exact sound_withOwn sound fun form owned =>
      sound_put (sound_read sound) _ (sound.fits form (mem_of_own owned))
  | saveConfig id code caller => exact sound_withOwn sound fun form _ => sound_save sound _ _ _
  | get id caller => exact sound_withOwn sound fun form _ => sound
  | publish id caller =>
    exact sound_withOwn sound fun form owned => sound_publish sound id (mem_of_own owned)
  | addResponse id answers => exact sound_addResponse sound id answers
  | addHistory survey code type caller => exact sound_addHistory sound survey code type caller
  | wait seconds => exact sound.later _ (Nat.le_refl _)
  | pace passing => exact sound.later _ (Nat.le_refl _)
  | list | data | bannerData | historyList => exact sound

theorem sound_run (sound : ledger.Sound) (ops : List Op) : (ledger.run ops).Sound := by
  induction ops generalizing ledger with
  | nil => exact sound
  | cons op rest ih => exact ih (sound_perform sound op)

end Ledger
end SurveyDesk.Survey
