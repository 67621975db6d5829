/-!
Dates as headers write them: the day of the week, the date and the time of a second, in the
Gregorian calendar and at Greenwich.
-/
namespace SurveyDesk.Http

/-- A day of the calendar. -/
structure Day where
  year : Int
  month : Nat
  day : Nat
  deriving DecidableEq, Repr

/-- The days before a year that starts in March, counted from the first of March of year zero. -/
def daysBeforeYear (year : Int) : Int :=
  365 * year + year.fdiv 4 - year.fdiv 100 + year.fdiv 400

/-- The days before a month in a year that starts in March, the months counted from zero. -/
def daysBeforeMonth (month : Nat) : Nat := (153 * month + 2) / 5

/-- The days from the first of March of year zero to the first of January 1970. -/
def daysBeforeEpoch : Int := 719468

/-- The day with a number, the first of January 1970 being day zero. The years of a period of four
hundred are counted from March on, so that a leap day comes last. -/
def Day.ofNumber (number : Int) : Day :=
  let sinceStart := number + daysBeforeEpoch
  let period := sinceStart.fdiv 146097
  let inPeriod := (sinceStart.fmod 146097).toNat
  let yearInPeriod :=
    (inPeriod - inPeriod / 1460 + inPeriod / 36524 - inPeriod / 146096) / 365
  let inYear := inPeriod - (365 * yearInPeriod + yearInPeriod / 4 - yearInPeriod / 100)
  let month := (5 * inYear + 2) / 153
  let year := period * 400 + yearInPeriod
  { year := if month < 10 then year else year + 1
    month := if month < 10 then month + 3 else month - 9
    day := inYear - daysBeforeMonth month + 1 }

/-- The number of a day. -/
def Day.number (day : Day) : Int :=
  let year := if day.month ≤ 2 then day.year - 1 else day.year
  let month := if day.month ≤ 2 then day.month + 9 else day.month - 3
  daysBeforeYear year + daysBeforeMonth month + day.day - 1 - daysBeforeEpoch

/-- The names of the days of the week; day zero is a Thursday. -/
def weekdayNames : List String := ["Thu", "Fri", "Sat", "Sun", "Mon", "Tue", "Wed"]

/-- The names of the months. -/
def monthNames : List String :=
  ["Jan", "Feb", "Mar", "Apr", "May", "Jun", "Jul", "Aug", "Sep", "Oct", "Nov", "Dec"]

/-- A number with two digits at least. -/
def twoDigits (number : Nat) : String :=
  if number < 10 then "0" ++ toString number else toString number

/-- A year, with blanks before it up to four places. -/
def yearText (year : Int) : String :=
  let text := toString year
  String.ofList (List.replicate (4 - text.length) ' ') ++ text

/-- The seconds of a day. -/
def secondsOfDay : Int := 86400

/-- The date of a second, counted from the start of 1970. -/
def dateText (second : Int) : String :=
  let number := second.fdiv secondsOfDay
  let day := Day.ofNumber number
  let inDay := (second.fmod secondsOfDay).toNat
  let weekday := weekdayNames.getD (number.fmod 7).toNat ""
  let month := monthNames.getD (day.month - 1) ""
  weekday ++ ", " ++ twoDigits day.day ++ " " ++ month ++ " " ++ yearText day.year ++ " "
    ++ twoDigits (inDay / 3600) ++ ":" ++ twoDigits (inDay / 60 % 60) ++ ":"
    ++ twoDigits (inDay % 60) ++ " GMT"

end SurveyDesk.Http
