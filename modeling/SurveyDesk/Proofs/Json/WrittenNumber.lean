import SurveyDesk.Proofs.Json.Number

/-! Numbers are written as numerals. A whole number has no point and no exponent and is read back
as the digits it has. A double always has one of the two, so it is read back as a double. -/
namespace SurveyDesk.Json

/-! ## Digits -/

private theorem Digits.append (first : Digits ahead) (second : Digits behind) :
    Digits (ahead ++ behind) := fun c member =>
  (List.mem_append.mp member).elim (first c) (second c)

private theorem digits_replicate (n : Nat) : Digits (List.replicate n '0') := fun c member => by
  rw [(List.mem_replicate.mp member).2]
  decide

private theorem digits_toDigits (n : Nat) : Digits (Nat.toDigits 10 n) := fun c member => by
  have digit := Nat.isDigit_of_mem_toDigits (by decide) (by decide) member
  simp only [Char.isDigit, Bool.and_eq_true, decide_eq_true_eq] at digit
  exact digit

/-- The decimal digits of a number that is not zero start with another digit than zero. -/
private theorem toDigits_significant (n : Nat) (positive : 0 < n) :
    ∃ first more, Nat.toDigits 10 n = first :: more ∧ first ≠ '0' := by
  induction n using Nat.strongRecOn with
  | ind n ih =>
    by_cases small : n < 10
    · refine ⟨n.digitChar, [], Nat.toDigits_of_lt_base small, ?_⟩
      have letters : ∀ d < 10, 0 < d → d.digitChar ≠ '0' := by decide
      exact letters n small positive
    · obtain ⟨first, more, digits, nonzero⟩ := ih (n / 10) (by omega) (by omega)
      refine ⟨first, more ++ [(n % 10).digitChar], ?_, nonzero⟩
      rw [Nat.toDigits_of_base_le (by decide) (by omega), digits, List.cons_append]

private theorem leads_significant {first : Char} {more : List Char}
    (digits : Digits (first :: more)) (nonzero : first ≠ '0') : Leads (first :: more) :=
  ⟨first, more, rfl, digits, fun zero => absurd zero nonzero⟩

private theorem leads_zero : Leads ['0'] := ⟨'0', [], rfl, digits_replicate 1, fun _ => rfl⟩

private theorem leads_toDigits (n : Nat) : Leads (Nat.toDigits 10 n) := by
  by_cases zero : n = 0
  · rw [zero]
    exact leads_zero
  · obtain ⟨first, more, digits, nonzero⟩ := toDigits_significant n (Nat.pos_of_ne_zero zero)
    have all := digits_toDigits n
    rw [digits] at all ⊢
    exact leads_significant all nonzero

/-- The decimal digits of a number stand for it. -/
theorem wholeOf_toDigits (n : Nat) : Decimal.wholeOf (Nat.toDigits 10 n) = n := by
  have meant := @Nat.ofDigitChars_ten_toDigits n
  rw [Nat.ofDigitChars_eq_foldl] at meant
  simpa only [Decimal.wholeOf, Decimal.digitValue, Nat.mul_comm 10] using meant

/-! ## Whole numbers -/

/-- The numeral that a whole number is written as. -/
def wholeNumeral (number : Int) : Numeral where
  negative := number < 0
  ahead := Nat.toDigits 10 number.natAbs
  behind := []
  exponent := none
  leads := leads_toDigits _
  fraction := fun _ member => absurd member List.not_mem_nil
  power := fun _ _ none => nomatch none

theorem toList_toString_int (number : Int) :
    (toString number).toList = (wholeNumeral number).text := by
  change number.repr.toList = _
  rw [Int.repr_eq_if]
  simp only [Numeral.text, Numeral.body, wholeNumeral, Numeral.fractionText, Numeral.exponentText,
    List.isEmpty_nil, if_true, List.append_nil, decide_eq_true_eq]
  by_cases negative : number < 0
  · rw [if_neg (by omega), if_pos negative, String.toList_append, Nat.toList_repr,
      show (-number).toNat = number.natAbs by omega]
    rfl
  · rw [if_pos (by omega), if_neg negative, Nat.toList_repr,
      show number.toNat = number.natAbs by omega, List.nil_append]

theorem firstToken_int (number : Int) (offset : Nat) (ended : Ended rest) :
    firstToken offset ((toString number).toList.map .char ++ rest) =
      (.whole (number < 0) (Nat.toDigits 10 number.natAbs), (toString number).toList.length) := by
  rw [toList_toString_int, Numeral.firstToken_text _ offset ended]
  rfl

/-! ## Doubles -/

/-- Whether a numeral is that of a double. -/
private def Numeral.Double (numeral : Numeral) : Prop :=
  numeral.behind ≠ [] ∨ numeral.exponent ≠ none

private theorem Numeral.Double.token {numeral : Numeral} (double : numeral.Double) :
    ∃ number, numeral.token = .constant (.float number) := by
  unfold Numeral.token
  split
  · exact ⟨_, rfl⟩
  · rename_i none
    rw [if_neg (by simpa using double.resolve_right (absurd none))]
    exact ⟨_, rfl⟩

/-- The numeral of the digits ahead of a point and behind it. -/
private def pointed (negative : Bool) (leads : Leads ahead) (fraction : Digits behind) : Numeral :=
  ⟨negative, ahead, behind, none, leads, fraction, fun _ _ none => nomatch none⟩

private theorem body_pointed (negative : Bool) (leads : Leads ahead) (fraction : Digits behind)
    (some : behind ≠ []) :
    (pointed negative leads fraction).body = ahead ++ '.' :: behind := by
  have present : behind.isEmpty = false := by simpa using some
  simp [Numeral.body, pointed, Numeral.fractionText, Numeral.exponentText, present]

/-- Digits written with a point are a numeral of a double. -/
private theorem positional_numeral (negative : Bool) {first : Char} {more : List Char}
    (digits : Digits (first :: more)) (nonzero : first ≠ '0') (power : Int) :
    ∃ numeral : Numeral, numeral.Double ∧ numeral.negative = negative ∧
      numeral.body = Decimal.positional (first :: more) power := by
  unfold Decimal.positional
  by_cases below : power < 0
  · have fraction : Digits (List.replicate ((-power).toNat - 1) '0' ++ first :: more) :=
      (digits_replicate _).append digits
    refine ⟨pointed negative leads_zero fraction, .inl (by simp [pointed]), rfl, ?_⟩
    rw [body_pointed negative leads_zero fraction (by simp), if_pos below]
    rfl
  rw [if_neg below]
  by_cases short : (first :: more).length ≤ power.toNat + 1
  · have leads : Leads (first :: more ++
        List.replicate (power.toNat + 1 - (first :: more).length) '0') :=
      leads_significant (digits.append (digits_replicate _)) nonzero
    refine ⟨pointed negative leads (digits_replicate 1), .inl (by simp [pointed]), rfl, ?_⟩
    rw [body_pointed negative leads (digits_replicate 1) (by simp)]
    exact (if_pos short).symm
  · have leads : Leads (first :: more.take power.toNat) :=
      leads_significant (fun c member => digits c
        (List.mem_of_mem_take (i := power.toNat + 1) (by simpa using member))) nonzero
    have fraction : Digits ((first :: more).drop (power.toNat + 1)) :=
      fun c member => digits c (List.mem_of_mem_drop member)
    have some : (first :: more).drop (power.toNat + 1) ≠ [] := by
      rw [ne_eq, List.drop_eq_nil_iff]
      exact short
    refine ⟨pointed negative leads fraction, .inl some, rfl, ?_⟩
    rw [body_pointed negative leads fraction some]
    exact (if_neg short).symm

/-- Digits written with an exponent are a numeral of a double. -/
private theorem scientific_numeral (negative : Bool) (leastDigits : Nat) {first : Char}
    {more : List Char} (digits : Digits (first :: more)) (power : Int) :
    ∃ numeral : Numeral, numeral.Double ∧ numeral.negative = negative ∧
      numeral.body = Decimal.scientific leastDigits (first :: more) power := by
  have leads : Leads [first] :=
    ⟨first, [], rfl, fun c member => digits c (by simp_all), fun _ => rfl⟩
  have fraction : Digits more := fun c member => digits c (List.mem_cons_of_mem first member)
  have size : Digits (Decimal.padded leastDigits power.natAbs) :=
    (digits_replicate _).append (digits_toDigits _)
  have some : Decimal.padded leastDigits power.natAbs ≠ [] := by
    simp [Decimal.padded, Nat.toDigits_ne_nil]
  let numeral : Numeral :=
    ⟨negative, [first], more, .some (power < 0, Decimal.padded leastDigits power.natAbs), leads,
      fraction, fun minus digits here => by cases here; exact ⟨size, some⟩⟩
  refine ⟨numeral, .inr (by simp [numeral]), rfl, ?_⟩
  cases more <;>
    simp [numeral, Decimal.scientific, Numeral.body, Numeral.fractionText, Numeral.exponentText]

/-- A decimal that is tried for a double is not zero. -/
private theorem candidate?_positive (tried : Decimal.candidate? significand exponent digits =
    some found) : 0 < found.whole := by
  have pick (n : Nat) (power : Int) (positive : 0 < n)
      (same : (if n % 10 = 0 then ⟨n / 10, power + 1⟩ else ⟨n, power⟩ : Decimal.Digits) = found) :
      0 < found.whole := by
    subst same
    split <;> dsimp only <;> omega
  unfold Decimal.candidate? at tried
  dsimp only at tried
  split at tried
  · rename_i first second
    simp only [Bool.and_eq_true, decide_eq_true_eq] at first second
    split at tried
    · exact pick _ _ first.1 (Option.some.inj tried)
    · exact pick _ _ second.1 (Option.some.inj tried)
  · rename_i first second
    simp only [Bool.and_eq_true, decide_eq_true_eq] at first
    exact pick _ _ first.1 (Option.some.inj tried)
  · rename_i first second
    simp only [Bool.and_eq_true, decide_eq_true_eq] at second
    exact pick _ _ second.1 (Option.some.inj tried)
  · cases tried

private theorem search_positive (significand : Nat) (exponent : Int) (digits left : Nat)
    (found : Decimal.search significand exponent digits left = some decimal) :
    0 < decimal.whole := by
  induction left generalizing digits with
  | zero => cases found
  | succ left ih =>
    rw [Decimal.search] at found
    split at found
    · rename_i tried
      cases found
      exact candidate?_positive tried
    · exact ih (digits + 1) found

private theorem shortest_positive {significand : Nat} (positive : 0 < significand)
    (exponent : Int) : 0 < (Decimal.shortest significand exponent).whole := by
  unfold Decimal.shortest
  cases found : Decimal.search significand exponent 1 17 with
  | none => exact positive
  | some decimal => exact search_positive significand exponent 1 17 found

/-- The text of an ordinary double is a numeral of a double. -/
private theorem write_numeral (negative : Bool) (significand : Nat) (exponent : Int) :
    ∃ numeral : Numeral, numeral.Double ∧
      Decimal.Layout.document.write (.finite negative significand exponent) = numeral.text := by
  by_cases zero : significand = 0
  · refine ⟨pointed negative leads_zero (digits_replicate 1), .inl (by simp [pointed]), ?_⟩
    rw [Numeral.text, body_pointed negative leads_zero (digits_replicate 1) (by simp), zero]
    rfl
  · have positive := shortest_positive (Nat.pos_of_ne_zero zero) exponent
    obtain ⟨first, more, digits, nonzero⟩ := toDigits_significant _ positive
    have all := digits_toDigits (Decimal.shortest significand exponent).whole
    rw [digits] at all
    let power := (Decimal.shortest significand exponent).exponent + (first :: more).length - 1
    simp only [Decimal.Layout.write, if_neg zero, digits]
    by_cases full : Decimal.Layout.document.leastPower ≤ power ∧
        power < Decimal.Layout.document.powerLimit
    · obtain ⟨numeral, double, sign, body⟩ := positional_numeral negative all nonzero power
      exact ⟨numeral, double, by rw [if_pos full, Numeral.text, sign, body]⟩
    · obtain ⟨numeral, double, sign, body⟩ := scientific_numeral negative
        Decimal.Layout.document.exponentDigits all power
      exact ⟨numeral, double, by rw [if_neg full, Numeral.text, sign, body]⟩

/-- The double that the text of a double is read as. What is no ordinary number is written as a
word and stays what it is. -/
def rereadDouble (number : Binary64) : Binary64 :=
  match readNumber? ((Decimal.Layout.document.write number).map .char) with
  | some (.constant (.float found), _) => found
  | _ => number

theorem firstToken_double (number : Binary64) (offset : Nat) (ended : Ended rest) :
    firstToken offset ((Decimal.Layout.document.write number).map .char ++ rest) =
      (.constant (.float (rereadDouble number)),
        (Decimal.Layout.document.write number).length) := by
  cases number with
  | nan => rfl
  | infinite negative => cases negative <;> rfl
  | finite negative significand exponent =>
    obtain ⟨numeral, double, text⟩ := write_numeral negative significand exponent
    obtain ⟨found, token⟩ := double.token
    have alone := numeral.readNumber?_text (show Ended [] by simp [Ended])
    rw [List.append_nil] at alone
    rw [rereadDouble, text, numeral.firstToken_text offset ended, alone, token]

/-- The text of a double does not start with a space. -/
theorem write_visible (number : Binary64) :
    (Decimal.Layout.document.write number).head?.map (fun c => isSpace (.char c)) = some false := by
  cases number with
  | nan => rfl
  | infinite negative => cases negative <;> rfl
  | finite negative significand exponent =>
    obtain ⟨numeral, -, text⟩ := write_numeral negative significand exponent
    rw [text]
    exact numeral.text_visible

end SurveyDesk.Json
