import Mathlib.Data.List.Basic
import SurveyDesk.Proofs.Http.Calendar

/-! Reading dates. A date in a header names the day and the time of one second, and that second is
read back from it, whichever it is; so no two seconds have the same date. The day of the week is not
read. -/
namespace SurveyDesk.Http

/-- The number that digits stand for. -/
def numberOf? (digits : List Char) : Option Nat :=
  if digits ≠ [] ∧ digits.all Char.isDigit = true then some (Nat.ofDigitChars 10 digits 0) else none

/-- The year that digits stand for, maybe behind a sign. -/
def yearOf? : List Char → Option Int
  | '-' :: digits => (numberOf? digits).map fun number : Nat => -(number : Int)
  | digits => (numberOf? digits).map Int.ofNat

/-- The month that has a name. -/
def monthOf? (name : List Char) : Option Nat :=
  (monthNames.idxOf? (String.ofList name)).map (· + 1)

/-- The second of a day that a time names. -/
def timeOf? : List Char → Option Nat
  | [' ', h, h', ':', m, m', ':', s, s', ' ', 'G', 'M', 'T'] => do
    return (← numberOf? [h, h']) * 3600 + (← numberOf? [m, m']) * 60 + (← numberOf? [s, s'])
  | _ => none

/-- The second that a date names, counted from the start of 1970. -/
def secondOf? : List Char → Option Int
  | _ :: _ :: _ :: ',' :: ' ' :: d :: d' :: ' ' :: m :: m' :: m'' :: ' ' :: rest => do
    let rest := rest.dropWhile (· = ' ')
    let date : Day := ⟨← yearOf? (rest.takeWhile (· ≠ ' ')), ← monthOf? [m, m', m''],
      ← numberOf? [d, d']⟩
    return date.number * secondsOfDay + (← timeOf? (rest.dropWhile (· ≠ ' ')))
  | _ => none

/-! ## Numbers and names -/

theorem numberOf?_toDigits (number : Nat) : numberOf? (Nat.toDigits 10 number) = some number := by
  have digits : (Nat.toDigits 10 number).all Char.isDigit = true := by
    apply List.all_eq_true.mpr
    intro c member
    exact Nat.isDigit_of_mem_toDigits (by decide) (by decide) member
  rw [numberOf?, if_pos ⟨Nat.toDigits_ne_nil, digits⟩, Nat.ofDigitChars_ten_toDigits]

theorem twoDigits_read : ∀ number < 100, (twoDigits number).toList.length = 2 ∧
    numberOf? (twoDigits number).toList = some number := by
  decide +kernel

theorem monthNames_read : ∀ month < 12, (monthNames.getD month "").toList.length = 3 ∧
    monthOf? (monthNames.getD month "").toList = some (month + 1) := by
  decide +kernel

theorem weekdayNames_length : ∀ day < 7, (weekdayNames.getD day "").toList.length = 3 := by
  decide

theorem twoDigits_plain : ∀ number < 100, ';' ∉ (twoDigits number).toList := by
  decide +kernel

theorem monthNames_plain : ∀ month < 12, ';' ∉ (monthNames.getD month "").toList := by
  decide

theorem weekdayNames_plain : ∀ day < 7, ';' ∉ (weekdayNames.getD day "").toList := by
  decide

/-- Every year is read back, and it is written in digits, maybe behind a sign. -/
theorem year_read (year : Int) : yearOf? (toString year).toList = some year ∧
    ∀ c ∈ (toString year).toList, c.isDigit = true ∨ c = '-' := by
  have digits (number : Nat) : ∀ c ∈ Nat.toDigits 10 number, c.isDigit = true := by
    intro c member
    exact Nat.isDigit_of_mem_toDigits (by decide) (by decide) member
  change yearOf? year.repr.toList = _ ∧ ∀ c ∈ year.repr.toList, _
  rw [Int.repr_eq_if]
  by_cases negative : 0 ≤ year
  · rw [if_pos negative, Nat.toList_repr]
    constructor
    · unfold yearOf?
      split
      · rename_i first
        exact absurd (digits year.toNat '-' (first ▸ List.mem_cons_self)) (by decide)
      · rw [numberOf?_toDigits, Option.map_some]
        exact congrArg some (Int.toNat_of_nonneg negative)
    · intro c member
      exact .inl (digits year.toNat c member)
  · rw [if_neg negative, String.toList_append, Nat.toList_repr]
    constructor
    · have signed : yearOf? ('-' :: Nat.toDigits 10 (-year).toNat) =
          (numberOf? (Nat.toDigits 10 (-year).toNat)).map fun number : Nat => -(number : Int) := rfl
      refine signed.trans ?_
      rw [numberOf?_toDigits, Option.map_some]
      congr 1
      omega
    · intro c member
      rcases List.mem_append.mp member with sign | digit
      · exact .inr (List.mem_singleton.mp sign)
      · exact .inl (digits _ c digit)

/-! ## Dates -/

theorem year_plain {year : Int} {mark : Char} (digit : mark.isDigit = false) (sign : mark ≠ '-') :
    ∀ c ∈ (toString year).toList, c ≠ mark := by
  intro c member
  rintro rfl
  rcases (year_read year).2 c member with isDigit | isSign
  · cases digit.symm.trans isDigit
  · exact sign isSign

/-- A year is read back from behind the blanks that it is filled up with. -/
theorem yearText_read (year : Int) (rest : List Char) :
    let text := ((yearText year).toList ++ ' ' :: rest).dropWhile (· = ' ')
    yearOf? (text.takeWhile (· ≠ ' ')) = some year ∧ text.dropWhile (· ≠ ' ') = ' ' :: rest := by
  have read := (year_read year).1
  have plain : ∀ c ∈ (toString year).toList, c ≠ ' ' := year_plain (by decide) (by decide)
  have present : (toString year).toList ≠ [] := by
    intro none
    rw [none] at read
    cases read
  obtain ⟨first, more, parts⟩ := List.exists_cons_of_ne_nil present
  have begins : first ≠ ' ' := plain first (parts ▸ List.mem_cons_self)
  have blanks : ∀ c ∈ List.replicate (4 - (toString year).length) ' ', decide (c = ' ') = true := by
    intro c member
    exact decide_eq_true (List.eq_of_mem_replicate member)
  have stripped : ((yearText year).toList ++ ' ' :: rest).dropWhile (· = ' ') =
      (toString year).toList ++ ' ' :: rest := by
    rw [yearText, String.toList_append, String.toList_ofList, List.append_assoc,
      List.dropWhile_append_of_pos blanks, parts, List.cons_append,
      List.dropWhile_cons_of_neg (by simpa using begins)]
  have filled : ∀ c ∈ (toString year).toList, decide (c ≠ ' ') = true := by
    intro c member
    exact decide_eq_true (plain c member)
  intro text
  simp only [text, stripped]
  rw [List.takeWhile_append_of_pos filled, List.takeWhile_cons_of_neg (by decide), List.append_nil,
    List.dropWhile_append_of_pos filled, List.dropWhile_cons_of_neg (by decide)]
  exact ⟨read, rfl⟩

/-- The time of a second of a day, as a date writes it. -/
def timeText (second : Nat) : List Char :=
  (twoDigits (second / 3600)).toList ++ ':' :: ((twoDigits (second / 60 % 60)).toList ++ ':' ::
    ((twoDigits (second % 60)).toList ++ " GMT".toList))

theorem timeOf?_timeText {second : Nat} (small : second < 86400) :
    timeOf? (' ' :: timeText second) = some second := by
  obtain ⟨hours, hour⟩ := twoDigits_read (second / 3600) (by omega)
  obtain ⟨minutes, minute⟩ := twoDigits_read (second / 60 % 60) (by omega)
  obtain ⟨seconds, last⟩ := twoDigits_read (second % 60) (by omega)
  obtain ⟨h, h', hourText⟩ := List.length_eq_two.mp hours
  obtain ⟨m, m', minuteText⟩ := List.length_eq_two.mp minutes
  obtain ⟨s, s', secondText⟩ := List.length_eq_two.mp seconds
  rw [timeText, hourText, minuteText, secondText]
  rw [hourText] at hour
  rw [minuteText] at minute
  rw [secondText] at last
  have total : second / 3600 * 3600 + second / 60 % 60 * 60 + second % 60 = second := by omega
  show (do return (← numberOf? [h, h']) * 3600 + (← numberOf? [m, m']) * 60 +
    (← numberOf? [s, s']) : Option Nat) = some second
  rw [hour, minute, last]
  exact congrArg some total

/-- The day and the second of the day that a second is. -/
theorem second_split (second : Int) :
    second = second.fdiv secondsOfDay * secondsOfDay + (second.fmod secondsOfDay).toNat ∧
      (second.fmod secondsOfDay).toNat < 86400 := by
  rw [secondsOfDay, Int.fdiv_eq_ediv_of_nonneg _ (by decide),
    Int.fmod_eq_emod_of_nonneg _ (by decide)]
  omega

theorem timeText_plain {second : Nat} (small : second < 86400) : ';' ∉ timeText second := by
  have marks : ';' ≠ ':' ∧ ';' ∉ " GMT".toList := by decide
  rw [timeText]
  simp only [List.mem_append, List.mem_cons, not_or]
  exact ⟨twoDigits_plain _ (by omega), marks.1, twoDigits_plain _ (by omega), marks.1,
    twoDigits_plain _ (by omega), marks.2⟩

theorem yearText_plain (year : Int) : ';' ∉ (yearText year).toList := by
  rw [yearText, String.toList_append, String.toList_ofList, List.mem_append]
  rintro (blank | other)
  · exact absurd (List.eq_of_mem_replicate blank) (by decide)
  · exact year_plain (by decide) (by decide) _ other rfl

/-- The parts of a date: three letters for the day of the week, the day and the month, the year and
the time. -/
theorem toList_dateText {second : Int} {date : Day}
    (same : Day.ofNumber (second.fdiv secondsOfDay) = date) :
    ∃ w w' w'' d d' m m' m'', (dateText second).toList = w :: w' :: w'' :: ',' :: ' ' :: d :: d' ::
        ' ' :: m :: m' :: m'' :: ' ' :: ((yearText date.year).toList ++ ' ' ::
          timeText (second.fmod secondsOfDay).toNat) ∧
      numberOf? [d, d'] = some date.day ∧ monthOf? [m, m', m''] = some date.month ∧
      ';' ∉ [w, w', w''] ∧ ';' ∉ [d, d'] ∧ ';' ∉ [m, m', m''] := by
  have valid : date.IsDate := same ▸ Day.isDate_ofNumber _
  have months : date.month - 1 < 12 := by
    have last := valid.month.2
    omega
  have days : date.day < 100 := by
    have last := valid.day.2
    have most := daysOfMonth_le date.year date.month
    omega
  have weekdays : ((second.fdiv secondsOfDay).fmod 7).toNat < 7 := by
    rw [Int.fmod_eq_emod_of_nonneg _ (by decide)]
    omega
  obtain ⟨letters, month⟩ := monthNames_read _ months
  obtain ⟨digits, day⟩ := twoDigits_read _ days
  have weekdayPlain := weekdayNames_plain _ weekdays
  have dayPlain := twoDigits_plain _ days
  have monthPlain := monthNames_plain _ months
  obtain ⟨w, w', w'', weekdayText⟩ := List.length_eq_three.mp (weekdayNames_length _ weekdays)
  obtain ⟨m, m', m'', monthText⟩ := List.length_eq_three.mp letters
  obtain ⟨d, d', dayText⟩ := List.length_eq_two.mp digits
  rw [weekdayText] at weekdayPlain
  rw [dayText] at dayPlain
  rw [monthText] at monthPlain
  rw [monthText, Nat.sub_add_cancel valid.month.1] at month
  rw [dayText] at day
  have marks : ", ".toList = [',', ' '] ∧ " ".toList = [' '] ∧ ":".toList = [':'] := ⟨rfl, rfl, rfl⟩
  refine ⟨w, w', w'', d, d', m, m', m'', ?_, day, month, weekdayPlain, dayPlain, monthPlain⟩
  simp only [dateText, same, String.toList_append, List.append_assoc, weekdayText, monthText,
    dayText, marks, timeText, List.cons_append, List.nil_append]

/-- No semicolon stands in a date. -/
theorem dateText_plain (second : Int) : ';' ∉ (dateText second).toList := by
  obtain ⟨date, same⟩ : ∃ date, Day.ofNumber (second.fdiv secondsOfDay) = date := ⟨_, rfl⟩
  obtain ⟨w, w', w'', d, d', m, m', m'', text, -, -, weekday, day, month⟩ := toList_dateText same
  have year := yearText_plain date.year
  have time := timeText_plain (second_split second).2
  have marks : ';' ≠ ',' ∧ ';' ≠ ' ' := by decide
  rw [text]
  simp only [List.mem_append, List.mem_cons, List.not_mem_nil, or_false, not_or]
    at weekday day month ⊢
  exact ⟨weekday.1, weekday.2.1, weekday.2.2, marks.1, marks.2, day.1, day.2, marks.2, month.1,
    month.2.1, month.2.2, marks.2, year, marks.2, time⟩

/-- Every second is read back from its date. -/
theorem secondOf?_dateText (second : Int) : secondOf? (dateText second).toList = some second := by
  obtain ⟨date, same⟩ : ∃ date, Day.ofNumber (second.fdiv secondsOfDay) = date := ⟨_, rfl⟩
  obtain ⟨w, w', w'', d, d', m, m', m'', text, day, month, -⟩ := toList_dateText same
  obtain ⟨whole, small⟩ := second_split second
  obtain ⟨year, rest⟩ := yearText_read date.year (timeText (second.fmod secondsOfDay).toNat)
  have number : date.number = second.fdiv secondsOfDay := same ▸ Day.number_ofNumber _
  rw [text]
  simp only [secondOf?, year, rest, day, month, timeOf?_timeText small]
  show some (date.number * secondsOfDay + _) = some second
  rw [number, ← whole]

example : secondOf? "Wed, 27 Oct 2077 20:26:40 GMT".toList = some 3402592000 := by decide

end SurveyDesk.Http
