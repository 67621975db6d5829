import Mathlib.Order.Monotone.Basic
import Mathlib.Tactic.IntervalCases
import SurveyDesk.Http.Date

/-! The days of the calendar and their numbers. What a number stands for is a date of the calendar,
and has that number again. -/
namespace SurveyDesk.Http

/-- Whether a year has a leap day. -/
def isLeapYear (year : Int) : Bool := year % 4 = 0 && (year % 100 ≠ 0 || year % 400 = 0)

/-- The days of a month of a year. -/
def daysOfMonth (year : Int) (month : Nat) : Nat :=
  if month = 2 then if isLeapYear year then 29 else 28
  else if month = 4 ∨ month = 6 ∨ month = 9 ∨ month = 11 then 30 else 31

namespace Day

/-- Whether a day is a date of the calendar. -/
structure IsDate (date : Day) : Prop where
  month : 1 ≤ date.month ∧ date.month ≤ 12
  day : 1 ≤ date.day ∧ date.day ≤ daysOfMonth date.year date.month

/-- The year of a date, if years start in March. -/
def marchYear (date : Day) : Int := if date.month ≤ 2 then date.year - 1 else date.year

/-- The month of a date, if years start in March and months are counted from zero. -/
def marchMonth (date : Day) : Nat := if date.month ≤ 2 then date.month + 9 else date.month - 3

end Day

theorem daysOfMonth_le (year : Int) (month : Nat) : daysOfMonth year month ≤ 31 := by
  unfold daysOfMonth
  split
  · split <;> omega
  · split <;> omega

/-! ## Years -/

theorem daysBeforeYear_eq (year : Int) :
    daysBeforeYear year = 365 * year + year / 4 - year / 100 + year / 400 := by
  rw [daysBeforeYear, Int.fdiv_eq_ediv_of_nonneg _ (by decide),
    Int.fdiv_eq_ediv_of_nonneg _ (by decide), Int.fdiv_eq_ediv_of_nonneg _ (by decide)]

/-- A year that starts in March ends with the leap day of the year in which it ends. -/
theorem daysBeforeYear_succ (year : Int) : daysBeforeYear (year + 1) =
    daysBeforeYear year + if isLeapYear (year + 1) then 366 else 365 := by
  rw [daysBeforeYear_eq, daysBeforeYear_eq]
  by_cases leap : isLeapYear (year + 1) = true
  · rw [if_pos leap]
    simp only [isLeapYear, Bool.and_eq_true, Bool.or_eq_true, decide_eq_true_eq] at leap
    omega
  · rw [if_neg leap]
    simp only [isLeapYear, Bool.and_eq_true, Bool.or_eq_true, decide_eq_true_eq] at leap
    omega

/-- The days before a year of a period of four hundred years. -/
def yearStart (year : Nat) : Nat := 365 * year + year / 4 - year / 100

theorem daysBeforeYear_period (period : Int) {year : Nat} (small : year ≤ 400) :
    daysBeforeYear (period * 400 + year) =
      146097 * period + yearStart year + (year / 400 : Nat) := by
  rw [daysBeforeYear_eq, yearStart]
  omega

theorem yearStart_succ (year : Nat) :
    yearStart (year + 1) + (year + 1) / 400 ≤ yearStart year + (366 + year / 400) := by
  unfold yearStart
  omega

/-- The days of a period up to one of them, less the leap days and the last day of all. -/
def commonDays (day : Nat) : Nat := day - day / 1460 + day / 36524 - day / 146096

theorem commonDays_mono : Monotone commonDays := by
  apply monotone_nat_of_le_succ
  intro day
  unfold commonDays
  omega

/-- Every year of a period has its common days at its first day, and not more at its last. -/
theorem commonDays_year : ∀ year < 400, 365 * year ≤ commonDays (yearStart year) ∧
    commonDays (yearStart (year + 1) - 1) < 365 * (year + 1) := by
  decide +kernel

/-- The year of a day is read off its common days. -/
theorem year_of_commonDays {day : Nat} (within : day ≤ 146096) :
    commonDays day / 365 < 400 ∧ yearStart (commonDays day / 365) ≤ day ∧
      day < yearStart (commonDays day / 365 + 1) + (commonDays day / 365 + 1) / 400 := by
  have last : commonDays day ≤ 145999 := commonDays_mono within
  have counted : commonDays day / 365 * 365 ≤ commonDays day ∧
    commonDays day < (commonDays day / 365 + 1) * 365 := by omega
  generalize commonDays day / 365 = year at counted ⊢
  have small : year < 400 := by omega
  refine ⟨small, ?_, ?_⟩
  · by_contra before
    have first : 0 < year := by
      apply Nat.pos_of_ne_zero
      rintro rfl
      exact before (Nat.zero_le day)
    have ended := (commonDays_year (year - 1) (by omega)).2
    rw [Nat.sub_add_cancel first] at ended
    have earlier : commonDays day ≤ commonDays (yearStart year - 1) := commonDays_mono (by omega)
    omega
  · by_cases final : year = 399
    · subst final
      exact Nat.lt_succ_of_le within
    · by_contra behind
      have begun := (commonDays_year (year + 1) (by omega)).1
      have later : commonDays (yearStart (year + 1)) ≤ commonDays day := commonDays_mono (by omega)
      omega

/-! ## Dates -/

namespace Day

theorem number_eq (date : Day) : date.number =
    daysBeforeYear date.marchYear + daysBeforeMonth date.marchMonth + date.day - 1 -
      daysBeforeEpoch := rfl

/-- The day of a month of a year that starts in March, all counted from zero but the year. -/
def ofMarch (year : Int) (month day : Nat) : Day :=
  ⟨if month < 10 then year else year + 1, if month < 10 then month + 3 else month - 9, day + 1⟩

/-- The day with a number lies in a month of a year that starts in March. -/
theorem ofNumber_eq (number : Int) : ∃ (year : Int) (month day : Nat),
    ofNumber number = ofMarch year month day ∧ month < 12 ∧
      daysBeforeMonth month + day < daysBeforeMonth (month + 1) ∧
      daysBeforeYear year + daysBeforeMonth month + day < daysBeforeYear (year + 1) ∧
      number + daysBeforeEpoch = daysBeforeYear year + daysBeforeMonth month + day := by
  let period := (number + daysBeforeEpoch) / 146097
  let inPeriod := ((number + daysBeforeEpoch) % 146097).toNat
  have parts : number + daysBeforeEpoch = 146097 * period + inPeriod ∧ inPeriod ≤ 146096 := by omega
  have found := year_of_commonDays parts.2
  obtain ⟨year, counted⟩ : ∃ year, year = commonDays inPeriod / 365 := ⟨_, rfl⟩
  rw [← counted] at found
  obtain ⟨small, begun, ended⟩ := found
  let inYear := inPeriod - yearStart year
  let month := (5 * inYear + 2) / 153
  have first := daysBeforeYear_period period (Nat.le_of_lt small)
  have last : daysBeforeYear (period * 400 + year + 1) =
      146097 * period + yearStart (year + 1) + ((year + 1) / 400 : Nat) := by
    rw [Int.add_assoc]
    exact daysBeforeYear_period period (Nat.succ_le_of_lt small)
  have none : year / 400 = 0 := Nat.div_eq_of_lt small
  have inMonth : daysBeforeMonth month ≤ inYear ∧ inYear < daysBeforeMonth (month + 1) := by
    unfold daysBeforeMonth
    omega
  have short : inYear ≤ 365 := by
    have next := yearStart_succ year
    omega
  refine ⟨period * 400 + year, month, inYear - daysBeforeMonth month, ?_, ?_, ?_, ?_, ?_⟩
  · rw [ofNumber, Int.fdiv_eq_ediv_of_nonneg _ (by decide),
      Int.fmod_eq_emod_of_nonneg _ (by decide)]
    subst counted
    rfl
  · omega
  · omega
  · omega
  · omega

theorem number_ofMarch (year : Int) {month : Nat} (small : month < 12) (day : Nat) :
    (ofMarch year month day).number =
      daysBeforeYear year + daysBeforeMonth month + day - daysBeforeEpoch := by
  have same : (ofMarch year month day).marchYear = year ∧
      (ofMarch year month day).marchMonth = month := by
    simp only [ofMarch, marchYear, marchMonth]
    by_cases early : month < 10
    · simp only [if_pos early]
      rw [if_neg (by omega), if_neg (by omega)]
      omega
    · simp only [if_neg early]
      rw [if_pos (by omega), if_pos (by omega)]
      omega
  have dayAfter : (ofMarch year month day).day = day + 1 := rfl
  rw [number_eq, same.1, same.2, dayAfter]
  omega

theorem isDate_ofNumber (number : Int) : (ofNumber number).IsDate := by
  obtain ⟨year, month, day, same, small, inMonth, inYear, -⟩ := ofNumber_eq number
  rw [same, ofMarch]
  have length := daysBeforeYear_succ year
  unfold daysBeforeMonth at inMonth inYear
  by_cases leap : isLeapYear (year + 1) = true
  · rw [if_pos leap] at length
    interval_cases month <;> constructor <;> simp [daysOfMonth, leap] <;> omega
  · rw [if_neg leap] at length
    interval_cases month <;> constructor <;> simp [daysOfMonth, leap] <;> omega

theorem number_ofNumber (number : Int) : (ofNumber number).number = number := by
  obtain ⟨year, month, day, same, small, -, -, counted⟩ := ofNumber_eq number
  rw [same, number_ofMarch year small, ← counted, Int.add_sub_cancel]

example : ofNumber 0 = ⟨1970, 1, 1⟩ := by decide

end Day
end SurveyDesk.Http
