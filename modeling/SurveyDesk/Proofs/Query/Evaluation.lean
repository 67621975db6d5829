import Mathlib.Data.List.Forall2
import SurveyDesk.Proofs.Query.Strictness
import SurveyDesk.Proofs.Store.Predicate

/-! Compiling keeps the meaning of a filter: evaluating the compiled form on a document answers what
the tree says of the document, and where it answers nothing, one of the tree's patterns could not be
searched for. The induction follows the tree; an object of the compiled form carries, under every
field, what the last condition on the field says. -/
namespace SurveyDesk.Query
open SurveyDesk.Filter (Item Condition Content Combinator Comparison clause? conditionPairs
  itemPairs alternativeData listData ConditionsTyped ItemsTyped ContentTyped contentHolds
  conditionVerdicts everyVerdicts eitherVerdicts listHolds lastsHold someHolds conditionPatterns
  itemPatterns contentPatterns textMatches)
open Predicate (orKey)

/-- An evaluation answers what is meant, or one of several patterns could not be searched for. -/
def Agrees (patterns : List Value) (result : Except Fault Bool) (meaning : Bool) : Prop :=
  match result with
  | .ok answer => answer = meaning
  | .error fault => ∃ pattern ∈ patterns, ∃ text, Predicate.found pattern text = .error fault

variable {patterns : List Value} {document : Value}

/-! ## Evaluating objects -/

theorem holdsAll_agrees {verdict : Text × Value → Bool} {entries : List (Text × Value)}
    (each : ∀ entry ∈ entries,
      Agrees patterns (Predicate.entryHolds document entry) (verdict entry)) :
    Agrees patterns (Predicate.holdsAll document entries) (entries.all verdict) := by
  induction entries with
  | nil =>
    rw [Predicate.holdsAll_nil]
    rfl
  | cons entry rest ih =>
    have here := each entry List.mem_cons_self
    have later := ih fun other member => each other (List.mem_cons_of_mem _ member)
    rw [Predicate.holdsAll_cons, List.all_cons]
    cases answered : Predicate.entryHolds document entry with
    | error fault =>
      rw [answered] at here
      exact here
    | ok satisfied =>
      rw [answered] at here
      obtain rfl : satisfied = verdict entry := here
      rw [ok_bind]
      cases verdict entry with
      | true => exact later
      | false => rfl

theorem holdsAny_agrees {branches : List Value} {choices : List Bool}
    (each : List.Forall₂ (fun branch choice =>
      Agrees patterns (Predicate.holds document branch) choice) branches choices) :
    Agrees patterns (Predicate.holdsAny document branches) (choices.any id) := by
  induction each with
  | nil =>
    rw [Predicate.holdsAny_nil]
    rfl
  | @cons branch choice _ _ here _ ih =>
    rw [Predicate.holdsAny_cons, List.any_cons]
    cases answered : Predicate.holds document branch with
    | error fault =>
      rw [answered] at here
      exact here
    | ok satisfied =>
      rw [answered] at here
      obtain rfl : satisfied = choice := here
      rw [ok_bind]
      cases satisfied with
      | true => rfl
      | false => exact ih

theorem lastsHold_iff {verdicts : List (Text × Bool)} :
    lastsHold verdicts = true ↔
      ∀ name verdict, lastOn name verdicts = some verdict → verdict = true := by
  unfold lastsHold
  rw [List.all_eq_true]
  constructor
  · intro all name verdict last
    have here := all (name, verdict) (mem_of_lastOn last)
    simpa [last] using here
  · rintro each ⟨name, verdict⟩ member
    cases last : lastOn name verdicts with
    | none => exact absurd rfl (lastOn_eq_none.mp last _ member)
    | some final => simp [each name final last]

/-- What an entry of an object says: one of the choices under the key of alternatives, and under
every other key the last verdict. -/
private def entryVerdict (verdicts : List (Text × Bool)) (choices : List Bool)
    (entry : Text × Value) : Bool :=
  if entry.1 = orKey then choices.any id else lastOn entry.1 verdicts = some true

section
variable {pairs : List (Text × Value)} {verdicts : List (Text × Bool)}
  {alternatives : List Value} {choices : List Bool} {related : Text → Value → Bool → Prop}

private theorem all_entryVerdict
    (fields : ∀ name, name ≠ orKey →
      Option.Rel (related name) (lastOn name pairs) (lastOn name verdicts))
    (noField : lastOn orKey verdicts = none)
    (either : lastOn orKey pairs = if alternatives = [] then none else some (.list alternatives))
    (paired : alternatives.length = choices.length) :
    (Entries.ofPairs pairs).all (entryVerdict verdicts choices) =
      (lastsHold verdicts && someHolds choices) := by
  rw [Bool.eq_iff_iff, Bool.and_eq_true, lastsHold_iff, List.all_eq_true]
  have someHolds_iff : someHolds choices = true ↔ (alternatives ≠ [] → choices.any id = true) := by
    cases alternatives <;> cases choices <;> simp_all [someHolds]
  rw [someHolds_iff]
  constructor
  · intro all
    constructor
    · intro name verdict last
      have apart : name ≠ orKey := by
        rintro rfl
        rw [noField] at last
        cases last
      have rel := fields name apart
      rw [last] at rel
      cases found : lastOn name pairs with
      | none =>
        rw [found] at rel
        cases rel
      | some expected =>
        have holds := all (name, expected) (Entries.mem_ofPairs_iff.mpr found)
        simpa [entryVerdict, apart, last] using holds
    · intro given
      rw [if_neg given] at either
      have holds := all (orKey, .list alternatives) (Entries.mem_ofPairs_iff.mpr either)
      simpa [entryVerdict] using holds
  · rintro ⟨lasts, chosen⟩ ⟨key, expected⟩ member
    have found := Entries.mem_ofPairs_iff.mp member
    unfold entryVerdict
    split
    · rename_i here
      obtain rfl : key = orKey := here
      refine chosen fun empty => ?_
      rw [either, if_pos empty] at found
      cases found
    · rename_i apart
      have rel := fields key apart
      rw [found] at rel
      cases last : lastOn key verdicts with
      | none =>
        rw [last] at rel
        cases rel
      | some verdict => simp [lasts key verdict last]

end

/-- An object says what the last verdicts on its fields say together with its alternatives. -/
theorem object_agrees {pairs : List (Text × Value)} {verdicts : List (Text × Bool)}
    (alternatives : List Value) (choices : List Bool)
    (fields : ∀ name, name ≠ orKey → Option.Rel
      (fun expected verdict =>
        Agrees patterns (Predicate.expectedHolds (document.at? name) expected) verdict)
      (lastOn name pairs) (lastOn name verdicts))
    (noField : lastOn orKey verdicts = none)
    (either : lastOn orKey pairs = if alternatives = [] then none else some (.list alternatives))
    (each : List.Forall₂ (fun branch choice =>
      Agrees patterns (Predicate.holds document branch) choice) alternatives choices) :
    Agrees patterns (Predicate.holdsAll document (Entries.ofPairs pairs))
      (lastsHold verdicts && someHolds choices) := by
  rw [← all_entryVerdict fields noField either each.length_eq]
  refine holdsAll_agrees ?_
  rintro ⟨key, expected⟩ member
  have found := Entries.mem_ofPairs_iff.mp member
  unfold Predicate.entryHolds entryVerdict
  by_cases here : key = orKey
  · subst here
    rw [if_pos rfl, if_pos rfl]
    rw [either] at found
    split at found
    · cases found
    · cases found
      rw [Predicate.alternativesHold_list]
      exact holdsAny_agrees each
  · rw [if_neg here, if_neg here]
    have rel := fields key here
    rw [found] at rel
    cases last : lastOn key verdicts with
    | none =>
      rw [last] at rel
      cases rel
    | some verdict =>
      rw [last] at rel
      cases rel with
      | some agrees => simpa [last] using agrees

/-! ## Following the tree -/

theorem found_agrees {pattern : Value} (searched : pattern ∈ patterns) (text : Text) :
    Agrees patterns (Predicate.found pattern text) (textMatches pattern text) := by
  unfold textMatches
  cases found : Predicate.found pattern text with
  | error fault => exact ⟨pattern, searched, text, found⟩
  | ok answer => rfl

theorem comparison_agrees (actual : Option Value) (operand : Value) (comparison : Comparison)
    (plain : comparison = .equal → Filter.isScalar operand)
    (searched : comparison = .matching → operand ∈ patterns) :
    Agrees patterns (Predicate.expectedHolds actual (comparison.expected operand))
      (comparison.holds actual operand) := by
  cases comparison with
  | equal =>
    have scalar := plain rfl
    cases operand with
    | list _ | object _ => cases scalar
    | _ =>
      cases actual <;>
        simp [Comparison.expected, Comparison.holds, Predicate.expectedHolds, Agrees]
  | different =>
    rw [Comparison.expected, Predicate.expectedHolds_fragment]
    cases actual <;> rfl
  | matching =>
    rw [Comparison.expected, Predicate.expectedHolds_fragment]
    cases actual with
    | none => rfl
    | some value =>
      cases value with
      | null => rfl
      | _ => exact found_agrees (searched rfl) _

theorem conditionVerdicts_fields {fields : List Text} : ∀ {conditions : List Condition},
    verdict ∈ conditionVerdicts fields document conditions → verdict.1 ∈ fields
  | .compare field comparator content :: rest, member => by
    unfold conditionVerdicts at member
    split at member
    · rename_i name comparison counts
      rcases List.mem_cons.mp member with rfl | later
      · exact (clause?_some counts).1
      · exact conditionVerdicts_fields later
    · exact conditionVerdicts_fields member

theorem everyVerdicts_fields {fields : List Text} {items : List Item}
    (member : verdict ∈ everyVerdicts fields document items) : verdict.1 ∈ fields := by
  induction items with
  | nil => cases member
  | cons item rest ih =>
    obtain ⟨combinator, conditions⟩ := item
    cases combinator with
    | every =>
      rcases List.mem_append.mp member with here | later
      · exact conditionVerdicts_fields here
      · exact ih later
    | either => exact ih member

section
variable {fields : List Text}

/-- A list of items agrees with its object if its conditions and its alternatives do. -/
theorem listData_agrees (apart : orKey ∉ fields) (items : List Item)
    (each : ∀ name, name ≠ orKey → Option.Rel
      (fun expected verdict =>
        Agrees patterns (Predicate.expectedHolds (document.at? name) expected) verdict)
      (lastOn name (itemPairs fields (alternativeData fields items) items))
      (lastOn name (everyVerdicts fields document items)))
    (either : List.Forall₂ (fun branch choice =>
        Agrees patterns (Predicate.holds document branch) choice)
      (alternativeData fields items) (eitherVerdicts fields document items)) :
    Agrees patterns (Predicate.holdsAll document (listData fields items))
      (listHolds fields document items) := by
  have noField : lastOn orKey (everyVerdicts fields document items) = none :=
    lastOn_eq_none.mpr fun _ member same => apart (same ▸ everyVerdicts_fields member)
  exact object_agrees _ _ each noField (lastOn_orKey apart _ items) either

mutual

theorem conditions_agree (apart : orKey ∉ fields)
    (notBoth : ¬ (Predicate.operatorKey ∈ fields ∧ Predicate.operandKey ∈ fields)) :
    ∀ (conditions : List Condition) (document : Value) (name : Text),
      ConditionsTyped conditions → conditionPatterns fields conditions ⊆ patterns →
      Option.Rel (fun expected verdict =>
          Agrees patterns (Predicate.expectedHolds (document.at? name) expected) verdict)
        (lastOn name (conditionPairs fields conditions))
        (lastOn name (conditionVerdicts fields document conditions))
  | [], _, _, _, _ => .none
  | .compare field comparator content :: rest, document, name, typed, within => by
    unfold conditionPatterns at within
    unfold conditionPairs conditionVerdicts
    split
    · rename_i other comparison counts
      rw [counts] at within
      obtain ⟨here, later⟩ := List.append_subset.mp within
      refine lastOn_rel_cons (conditions_agree apart notBoth rest document name typed.2.2.2 later)
        other ?_
      rintro rfl
      exact content_agrees apart notBoth content comparison _ typed.2.2.1 here
    · rename_i dropped
      rw [dropped] at within
      exact conditions_agree apart notBoth rest document name typed.2.2.2 within

theorem items_agree (apart : orKey ∉ fields)
    (notBoth : ¬ (Predicate.operatorKey ∈ fields ∧ Predicate.operandKey ∈ fields)) :
    ∀ (items : List Item) (alternatives : List Value) (document : Value) (name : Text),
      name ≠ orKey → ItemsTyped items → itemPatterns fields items ⊆ patterns →
      Option.Rel (fun expected verdict =>
          Agrees patterns (Predicate.expectedHolds (document.at? name) expected) verdict)
        (lastOn name (itemPairs fields alternatives items))
        (lastOn name (everyVerdicts fields document items))
  | [], _, _, _, _, _, _ => .none
  | .group .every conditions :: rest, alternatives, document, name, other, typed, within => by
    obtain ⟨here, later⟩ := List.append_subset.mp within
    exact lastOn_rel_append (conditions_agree apart notBoth conditions document name typed.1 here)
      (items_agree apart notBoth rest alternatives document name other typed.2 later)
  | .group .either conditions :: rest, alternatives, document, name, other, typed, within => by
    obtain ⟨here, later⟩ := List.append_subset.mp within
    have behind := items_agree apart notBoth rest alternatives document name other typed.2 later
    rw [itemPairs, everyVerdicts, lastOn, if_neg (Ne.symm other), Option.or_none]
    exact behind

theorem alternatives_agree (apart : orKey ∉ fields)
    (notBoth : ¬ (Predicate.operatorKey ∈ fields ∧ Predicate.operandKey ∈ fields)) :
    ∀ (items : List Item) (document : Value),
      ItemsTyped items → itemPatterns fields items ⊆ patterns →
      List.Forall₂ (fun branch choice =>
          Agrees patterns (Predicate.holds document branch) choice)
        (alternativeData fields items) (eitherVerdicts fields document items)
  | [], _, _, _ => .nil
  | .group .every conditions :: rest, document, typed, within =>
    alternatives_agree apart notBoth rest document typed.2 (List.append_subset.mp within).2
  | .group .either conditions :: rest, document, typed, within => by
    obtain ⟨here, later⟩ := List.append_subset.mp within
    refine .cons ?_ (alternatives_agree apart notBoth rest document typed.2 later)
    have noField : lastOn orKey (conditionVerdicts fields document conditions) = none :=
      lastOn_eq_none.mpr fun _ member same => apart (same ▸ conditionVerdicts_fields member)
    have alone := object_agrees [] []
      (fun name _ => conditions_agree apart notBoth conditions document name typed.1 here)
      noField (lastOn_conditionPairs_orKey apart conditions) .nil
    rw [Predicate.holds_object]
    simpa [someHolds] using alone

theorem content_agrees (apart : orKey ∉ fields)
    (notBoth : ¬ (Predicate.operatorKey ∈ fields ∧ Predicate.operandKey ∈ fields)) :
    ∀ (content : Content) (comparison : Comparison) (actual : Option Value),
      ContentTyped content → contentPatterns fields comparison content ⊆ patterns →
      Agrees patterns (Predicate.expectedHolds actual (comparison.expected (content.data fields)))
        (contentHolds fields actual comparison content)
  | .scalar value, comparison, actual, typed, within => by
    refine comparison_agrees actual value comparison (fun _ => typed) ?_
    rintro rfl
    exact within (by simp [contentPatterns])
  | .nested items, .different, actual, _, _ =>
    comparison_agrees actual _ .different (fun same => by cases same) (fun same => by cases same)
  | .nested items, .matching, actual, _, within =>
    comparison_agrees actual _ .matching (fun same => by cases same)
      fun _ => within (by simp [contentPatterns])
  | .nested items, .equal, actual, typed, within => by
    have inside : ∀ inner, Agrees patterns
        (Predicate.holdsAll inner (listData fields items)) (listHolds fields inner items) :=
      fun inner => listData_agrees apart items
        (fun name other => items_agree apart notBoth items _ inner name other typed within)
        (alternatives_agree apart notBoth items inner typed within)
    have asked := Predicate.expectedHolds_predicate (fragment?_listData notBoth items) actual
    change Agrees patterns (Predicate.expectedHolds actual (.object (listData fields items))) _
    rw [asked]
    cases actual with
    | none => rfl
    | some value =>
      cases value with
      | object inner => exact inside (.object inner)
      | _ => rfl

end

/-- Evaluating what a list of items stands for agrees with what the list says. -/
theorem list_agrees (apart : orKey ∉ fields)
    (notBoth : ¬ (Predicate.operatorKey ∈ fields ∧ Predicate.operandKey ∈ fields))
    (typed : ItemsTyped items) (document : Value) :
    Agrees (itemPatterns fields items)
      (Predicate.holds document (.object (listData fields items)))
      (listHolds fields document items) := by
  rw [Predicate.holds_object]
  exact listData_agrees apart items
    (fun name other => items_agree apart notBoth items _ document name other typed (fun _ => id))
    (alternatives_agree apart notBoth items document typed (fun _ => id))

end

/-! ## Filters for lists of surveys -/

/-- A pattern is searchable if every text can be searched for it. -/
def Searchable (pattern : Value) : Prop :=
  ∀ text, ∃ answer, Predicate.found pattern text = .ok answer

/-- Every filter that is read and within the limits is compiled. On every document the compiled form
answers what the tree says; it stops only where one of the tree's patterns cannot be searched for,
so that it always answers if all of them can. -/
theorem compileFilter_meaning (read : Filter.readFilter payload = .ok items)
    (within : Limits.standard.check items = .ok ()) :
    ∃ compiled, Compiler.standard.compileFilter items = .ok compiled ∧ ∀ document : Value,
      (∀ answer, Predicate.holds document (.object compiled) = .ok answer →
        answer = listHolds Compiler.surveyFilterFields document items) ∧
      (∀ fault, Predicate.holds document (.object compiled) = .error fault →
        ∃ pattern ∈ itemPatterns Compiler.surveyFilterFields items, ∃ text,
          Predicate.found pattern text = .error fault) ∧
      ((∀ pattern ∈ itemPatterns Compiler.surveyFilterFields items, Searchable pattern) →
        Predicate.holds document (.object compiled) =
          .ok (listHolds Compiler.surveyFilterFields document items)) := by
  have typed := Filter.itemsTyped_of_readFilter read
  have apart : orKey ∉ Compiler.standard.filterFields := by decide
  refine ⟨_, compileFilter_answers apart rfl within typed, fun document => ?_⟩
  have agrees := list_agrees apart (by decide) typed document
  cases evaluated : Predicate.holds document
      (.object (listData Compiler.standard.filterFields items)) with
  | ok answer =>
    rw [evaluated] at agrees
    obtain rfl : answer = listHolds Compiler.surveyFilterFields document items := agrees
    refine ⟨?_, ?_, fun _ => rfl⟩
    · rintro _ ⟨⟩
      rfl
    · rintro _ ⟨⟩
  | error fault =>
    rw [evaluated] at agrees
    refine ⟨?_, ?_, ?_⟩
    · rintro _ ⟨⟩
    · rintro _ ⟨⟩
      exact agrees
    · intro searchable
      obtain ⟨pattern, member, text, failed⟩ := agrees
      obtain ⟨answer, found⟩ := searchable pattern member text
      rw [failed] at found
      cases found

/-- A filter that overwrites a condition on the title, names a field that is not allowed and has an
alternative that is searched for. -/
private def newSurveys : Value := .list [
  .object [("condition", .list [
    .object [("field", .str "title"), ("value", .str "a")],
    .object [("field", .str "title"), ("comparator", .str "$ne"), ("value", .str "b")],
    .object [("field", .str "owner"), ("value", .str "ada")]])],
  .object [("comparator", .str "$or"), ("condition", .list [
    .object [("field", .str "curStatus.status"), ("comparator", .str "$regex"),
      ("value", .str "^ne")]])]]

private def newSurveyItems : List Item := [
  .group .every [.compare (.str "title") .null (.scalar (.str "a")),
    .compare (.str "title") (.str "$ne") (.scalar (.str "b")),
    .compare (.str "owner") .null (.scalar (.str "ada"))],
  .group .either [.compare (.str "curStatus.status") (.str "$regex") (.scalar (.str "^ne"))]]

private def newSurvey : Value := .object [("title", .str "c"), ("owner", .str "ben"),
  ("curStatus", .object [("status", .str "new")])]

theorem compileFilter_meaning_newSurveys :
    Filter.readFilter newSurveys = .ok newSurveyItems ∧
    Limits.standard.check newSurveyItems = .ok () ∧
    ∃ compiled, Compiler.standard.compileFilter newSurveyItems = .ok compiled ∧
      ∀ answer, Predicate.holds newSurvey (.object compiled) = .ok answer → answer = true := by
  have read : Filter.readFilter newSurveys = .ok newSurveyItems := rfl
  have within : Limits.standard.check newSurveyItems = .ok () := rfl
  obtain ⟨compiled, found, means⟩ := compileFilter_meaning read within
  have said : listHolds Compiler.surveyFilterFields newSurvey newSurveyItems = true := by
    decide +kernel
  refine ⟨read, within, compiled, found, fun answer evaluated => ?_⟩
  rw [(means newSurvey).1 answer evaluated, said]

end SurveyDesk.Query
