import SurveyDesk.Json.Token
import SurveyDesk.Json.Writer

/-! The numerals of JSON, and that they are read as they stand. A numeral ends where a digit, a
point or an exponent can no longer follow, as it does before a comma or a closing bracket. Whole
numbers are written as numerals of whole numbers, and doubles as numerals with a point or an
exponent. -/
namespace SurveyDesk.Json

/-- A text of decimal digits. -/
def Digits (text : List Char) : Prop := ∀ c ∈ text, '0' ≤ c ∧ c ≤ '9'

/-- What can stand ahead of the point: digits of which the first is zero only if it is the only
one. -/
def Leads (text : List Char) : Prop :=
  ∃ first more, text = first :: more ∧ Digits text ∧ (first = '0' → more = [])

/-- What may stand behind a value: nothing, a comma, or what closes a list or an object. -/
def Ended (rest : List Point) : Prop :=
  ∀ point ∈ rest.head?, point = ',' ∨ point = ']' ∨ point = '\x7d'

/-- A numeral of JSON. -/
structure Numeral where
  negative : Bool
  ahead : List Char
  behind : List Char
  exponent : Option (Bool × List Char)
  leads : Leads ahead
  fraction : Digits behind
  power : ∀ minus digits, exponent = some (minus, digits) → Digits digits ∧ digits ≠ []

namespace Numeral

/-- The fraction of a numeral, with the point. -/
def fractionText (behind : List Char) : List Char := if behind.isEmpty then [] else '.' :: behind

/-- The exponent of a numeral, with its mark. -/
def exponentText : Option (Bool × List Char) → List Char
  | none => []
  | some (minus, digits) => 'e' :: (if minus then '-' else '+') :: digits

/-- The text of a numeral behind its sign. -/
def body (numeral : Numeral) : List Char :=
  numeral.ahead ++ (fractionText numeral.behind ++ exponentText numeral.exponent)

/-- The text of a numeral. -/
def text (numeral : Numeral) : List Char :=
  (if numeral.negative then ['-'] else []) ++ numeral.body

/-- The token that a numeral is read as. -/
def token (numeral : Numeral) : Token :=
  match numeral.exponent with
  | some (minus, digits) =>
    let size : Int := Decimal.wholeOf digits
    .constant (.float (Decimal.toBinary64 numeral.negative numeral.ahead numeral.behind
      (if minus then -size else size)))
  | none =>
    if numeral.behind.isEmpty then .whole numeral.negative numeral.ahead
    else .constant (.float (Decimal.toBinary64 numeral.negative numeral.ahead numeral.behind 0))

end Numeral

/-! ## Reading numerals -/

variable {rest : List Point}

/-- Whether no digit stands in front. -/
private def DigitFree (text : List Point) : Prop :=
  ∀ c, text.head? = some (.char c) → ¬ ('0' ≤ c ∧ c ≤ '9')

private theorem digitRun_append {digits : List Char} (run : Digits digits)
    (stop : DigitFree rest) : digitRun (digits.map .char ++ rest) = digits := by
  induction digits with
  | nil =>
    match rest, stop with
    | [], _ | .half _ :: _, _ => rfl
    | .char c :: _, stop => exact if_neg (stop c rfl)
  | cons c more ih =>
    obtain ⟨digit, run⟩ := List.forall_mem_cons.mp run
    rw [List.map_cons, List.cons_append, digitRun, if_pos digit, ih run]

private theorem wholeRun_append {ahead : List Char} (leads : Leads ahead)
    (stop : DigitFree rest) : wholeRun (ahead.map .char ++ rest) = ahead := by
  obtain ⟨first, more, rfl, run, alone⟩ := leads
  by_cases zero : first = '0'
  · rw [zero, alone zero]
    rfl
  · rw [List.map_cons, List.cons_append, wholeRun.eq_2 _ fun tail same =>
      zero (Point.char.inj (List.cons.inj same).1)]
    exact digitRun_append run stop

private theorem Ended.digitFree (ended : Ended rest) : DigitFree rest := by
  intro c here
  rcases ended _ here with same | same | same <;> cases same <;> decide

private theorem exponentRun?_ended (ended : Ended rest) : exponentRun? rest = none := by
  cases rest with
  | nil => rfl
  | cons point more =>
    rcases ended point rfl with rfl | rfl | rfl <;> rfl

private theorem digitFree_exponentText (exponent : Option (Bool × List Char)) (ended : Ended rest) :
    DigitFree ((Numeral.exponentText exponent).map .char ++ rest) := by
  cases exponent with
  | none => exact ended.digitFree
  | some power =>
    intro c here
    cases here
    decide

private theorem digitFree_fractionText (behind : List Char) (exponent : Option (Bool × List Char))
    (ended : Ended rest) :
    DigitFree ((Numeral.fractionText behind).map .char ++
      ((Numeral.exponentText exponent).map .char ++ rest)) := by
  unfold Numeral.fractionText
  split
  · exact digitFree_exponentText exponent ended
  · intro c here
    cases here
    decide

private theorem fractionRun_append {behind : List Char} (fraction : Digits behind)
    (exponent : Option (Bool × List Char)) (ended : Ended rest) :
    fractionRun ((Numeral.fractionText behind).map .char ++
      ((Numeral.exponentText exponent).map .char ++ rest)) = behind := by
  unfold Numeral.fractionText
  split
  · rename_i none
    have bare : fractionRun ((Numeral.exponentText exponent).map .char ++ rest) = [] := by
      unfold fractionRun
      split
      · rename_i more point
        cases exponent with
        | none =>
          have here := ended (.char '.') (by rw [← List.nil_append rest]; exact point ▸ rfl)
          exact absurd here (by decide)
        | some power => cases point
      · rfl
    rw [List.map_nil, List.nil_append, bare, List.isEmpty_iff.mp none]
  · exact digitRun_append fraction (digitFree_exponentText exponent ended)

private theorem exponentRun?_append {minus : Bool} {digits : List Char} (run : Digits digits)
    (some : digits ≠ []) (ended : Ended rest) :
    exponentRun? ((Numeral.exponentText (.some (minus, digits))).map .char ++ rest) =
      .some (minus, digits, 2 + digits.length) := by
  have taken : digitRun (digits.map .char ++ rest) = digits := digitRun_append run ended.digitFree
  obtain ⟨first, more, rfl⟩ := List.exists_cons_of_ne_nil some
  cases minus <;> simp only [Numeral.exponentText, List.map_cons, List.cons_append] at taken ⊢ <;>
    simp [exponentRun?, taken]

/-- The token of a numeral whose sign takes so many characters, and its length. -/
private def readBody (negative : Bool) (signed : Nat) (body : List Point) : Option (Token × Nat) :=
  match wholeRun body with
  | [] => none
  | ahead =>
    let afterWhole := body.drop ahead.length
    let behind := fractionRun afterWhole
    let fractionLength := if behind.isEmpty then 0 else behind.length + 1
    let length := signed + ahead.length + fractionLength
    match exponentRun? (afterWhole.drop fractionLength) with
    | some (minus, digits, exponentLength) =>
      let size : Int := Decimal.wholeOf digits
      some (.constant (.float (Decimal.toBinary64 negative ahead behind
        (if minus then -size else size))), length + exponentLength)
    | none =>
      if behind.isEmpty then some (.whole negative ahead, length)
      else some (.constant (.float (Decimal.toBinary64 negative ahead behind 0)), length)

private theorem readNumber?_minus (body : List Point) :
    readNumber? (.char '-' :: body) = readBody true 1 body := rfl

private theorem readNumber?_plain {c : Char} (plain : c ≠ '-') (more : List Point) :
    readNumber? (.char c :: more) = readBody false 0 (.char c :: more) :=
  readNumber?.eq_2 _ fun _ same => plain (Point.char.inj (List.cons.inj same).1)

namespace Numeral

private theorem length_fractionText (behind : List Char) :
    (fractionText behind).length = if behind.isEmpty then 0 else behind.length + 1 := by
  unfold fractionText
  split <;> rfl

private theorem readBody_body (numeral : Numeral) (signed : Nat) (ended : Ended rest) :
    readBody numeral.negative signed (numeral.body.map .char ++ rest) =
      some (numeral.token, signed + numeral.body.length) := by
  obtain ⟨negative, ahead, behind, exponent, leads, fraction, power⟩ := numeral
  have stop := digitFree_fractionText behind exponent ended
  have behindRun := fractionRun_append fraction exponent ended
  have whole := wholeRun_append leads stop
  simp only [body, token, List.map_append, List.append_assoc]
  obtain ⟨first, more, rfl, -, -⟩ := leads
  have behindWhole (others : List Point) :
      ((first :: more).map Point.char ++ others).drop (first :: more).length = others := by
    rw [← List.length_map Point.char, List.drop_left]
  have behindFraction (others : List Point) :
      ((fractionText behind).map Point.char ++ others).drop (fractionText behind).length =
        others := by
    rw [← List.length_map Point.char, List.drop_left]
  simp only [readBody, whole, behindWhole, behindRun, ← length_fractionText, behindFraction]
  cases exponent with
  | none =>
    simp only [exponentText, List.map_nil, List.nil_append, exponentRun?_ended ended]
    split <;> simp <;> omega
  | some power' =>
    obtain ⟨minus, digits⟩ := power'
    obtain ⟨run, some⟩ := power minus digits rfl
    rw [exponentRun?_append run some ended]
    simp [exponentText]
    omega

/-- A numeral is read as its token, all of it and nothing of what stands behind it. -/
theorem readNumber?_text (numeral : Numeral) (ended : Ended rest) :
    readNumber? (numeral.text.map .char ++ rest) =
      some (numeral.token, numeral.text.length) := by
  have read (signed : Nat) := numeral.readBody_body signed ended
  obtain ⟨first, more, ahead, digits, -⟩ := numeral.leads
  cases sign : numeral.negative with
  | true =>
    rw [sign] at read
    simp only [text, sign, if_true, List.map_cons, List.cons_append, List.nil_append,
      readNumber?_minus, read, List.length_cons, Nat.add_comm]
  | false =>
    rw [sign] at read
    have plain : first ≠ '-' := by
      rintro rfl
      exact absurd (digits '-' (ahead ▸ List.mem_cons_self)) (by decide)
    have text : numeral.body = first :: (more ++ (fractionText numeral.behind ++
        exponentText numeral.exponent)) := by rw [body, ahead, List.cons_append]
    simp only [Numeral.text, sign, Bool.false_eq_true, if_false, List.nil_append]
    have here := read 0
    rw [text, List.map_cons, List.cons_append] at here ⊢
    rw [readNumber?_plain plain, here, Nat.zero_add]

/-- A digit is none of the characters that are no digits. -/
private theorem ne_of_digit {c : Char} (digit : '0' ≤ c ∧ c ≤ '9') (others : List Char)
    (apart : others.all (fun other => !('0' ≤ other && other ≤ '9')) = true) :
    ∀ other ∈ others, c ≠ other := by
  rintro other member rfl
  simpa [digit] using List.all_eq_true.mp apart c member

/-- No word for a value starts with a digit, with a sign or without. -/
private theorem words_apart {c : Char} (digit : '0' ≤ c ∧ c ≤ '9') (more : List Point) :
    words.find? (fun word => (Text.whole word.1).points.isPrefixOf (.char c :: more)) = none ∧
      words.find? (fun word =>
        (Text.whole word.1).points.isPrefixOf (.char '-' :: .char c :: more)) = none := by
  have different := fun other member =>
    (ne_of_digit digit "ntfNI-".toList (by decide) other member).symm
  simp only [String.reduceToList, List.mem_cons, List.not_mem_nil, or_false, forall_eq_or_imp,
    forall_eq] at different
  obtain ⟨n, t, f, capitalN, i, minus⟩ := different
  constructor <;> simp [words, Text.points, List.isPrefixOf, n, t, f, capitalN, i, minus]

/-- A text that starts with a digit, with a sign or without, is read as a number. -/
private theorem firstToken_number (offset : Nat) {c : Char} (digit : '0' ≤ c ∧ c ≤ '9')
    (more : List Point) :
    firstToken offset (.char c :: more) = (readNumber? (.char c :: more)).getD (.unknown, 1) ∧
      firstToken offset (.char '-' :: .char c :: more) =
        (readNumber? (.char '-' :: .char c :: more)).getD (.unknown, 1) := by
  have opens := ne_of_digit digit "[]\x7b\x7d:,\"".toList (by decide)
  simp only [String.reduceToList, List.mem_cons, List.not_mem_nil, or_false, forall_eq_or_imp,
    forall_eq] at opens
  obtain ⟨plain, signed⟩ := words_apart digit more
  constructor
  · rw [firstToken.eq_9 offset (.char c :: more) (by simp) (by simp [opens]) (by simp [opens])
      (by simp [opens]) (by simp [opens]) (by simp [opens]) (by simp [opens]) (by simp [opens]),
      plain]
  · rw [firstToken.eq_9 offset (.char '-' :: .char c :: more) (by simp) (by simp) (by simp)
      (by simp) (by simp) (by simp) (by simp) (by simp), signed]

/-- A numeral is a token of its own. -/
theorem firstToken_text (numeral : Numeral) (offset : Nat) (ended : Ended rest) :
    firstToken offset (numeral.text.map .char ++ rest) = (numeral.token, numeral.text.length) := by
  have read := numeral.readNumber?_text ended
  obtain ⟨first, more, ahead, digits, -⟩ := numeral.leads
  have digit := digits first (ahead ▸ List.mem_cons_self)
  obtain ⟨plain, signed⟩ := firstToken_number offset digit
    ((more ++ (fractionText numeral.behind ++ exponentText numeral.exponent)).map .char ++ rest)
  cases sign : numeral.negative with
  | true =>
    simp only [text, body, ahead, sign, if_true, List.map_cons, List.cons_append,
      List.nil_append] at read signed ⊢
    rw [signed, read, Option.getD_some]
  | false =>
    simp only [text, body, ahead, sign, Bool.false_eq_true, if_false, List.map_cons,
      List.cons_append, List.nil_append] at read plain ⊢
    rw [plain, read, Option.getD_some]

/-- A numeral does not start with a space. -/
theorem text_visible (numeral : Numeral) :
    numeral.text.head?.map (fun c => isSpace (.char c)) = some false := by
  obtain ⟨first, more, ahead, digits, -⟩ := numeral.leads
  have digit := digits first (ahead ▸ List.mem_cons_self)
  have other := ne_of_digit digit [' ', '\t', '\n', '\r'] (by decide)
  have visible : isSpace (.char first) = false := by simpa [isSpace, and_assoc] using other
  simp only [text, body, ahead]
  split
  · rfl
  · simpa using visible

end Numeral

end SurveyDesk.Json
