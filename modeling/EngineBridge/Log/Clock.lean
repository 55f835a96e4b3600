import EngineBridge.Document.Access

/-!
Moments of the calendar.

A moment is counted in seconds from the first of January 1970. Names of days and months are the
English ones.
-/

namespace EngineBridge.Log

structure Moment where
  year : Int
  month : Nat
  day : Nat
  hour : Nat
  minute : Nat
  second : Nat
deriving DecidableEq, Repr

namespace Moment

def secondsPerDay : Int := 86400

/-- The date of a day, counted from the first of January 1970. Years are counted from March on, so
that a leap day is the last of its year, in eras of 400 years. -/
def dateOfDay (day : Int) : Int × Nat × Nat :=
  let shifted := day + 719468
  let era := shifted.fdiv 146097
  let dayOfEra := (shifted - era * 146097).toNat
  let yearOfEra := (dayOfEra - dayOfEra / 1460 + dayOfEra / 36524 - dayOfEra / 146096) / 365
  let dayOfYear := dayOfEra - (365 * yearOfEra + yearOfEra / 4 - yearOfEra / 100)
  let shiftedMonth := (5 * dayOfYear + 2) / 153
  let dayOfMonth := dayOfYear - (153 * shiftedMonth + 2) / 5 + 1
  let month := if shiftedMonth < 10 then shiftedMonth + 3 else shiftedMonth - 9
  let year := (yearOfEra : Int) + era * 400 + (if month ≤ 2 then 1 else 0)
  (year, month, dayOfMonth)

/-- The day of a date, counted from the first of January 1970. -/
def dayOfDate (year : Int) (month day : Nat) : Int :=
  let shiftedYear := if month ≤ 2 then year - 1 else year
  let era := shiftedYear.fdiv 400
  let yearOfEra := shiftedYear - era * 400
  let shiftedMonth := if month > 2 then month - 3 else month + 9
  let dayOfYear : Int := (153 * shiftedMonth + 2) / 5 + day - 1
  era * 146097 + (yearOfEra * 365 + yearOfEra.fdiv 4 - yearOfEra.fdiv 100 + dayOfYear) - 719468

def ofSeconds (seconds : Int) : Moment :=
  let day := seconds.fdiv secondsPerDay
  let inDay := (seconds - day * secondsPerDay).toNat
  let (year, month, dayOfMonth) := dateOfDay day
  ⟨year, month, dayOfMonth, inDay / 3600, inDay / 60 % 60, inDay % 60⟩

example : ofSeconds 0 = ⟨1970, 1, 1, 0, 0, 0⟩ ∧ ofSeconds 951782399 = ⟨2000, 2, 28, 23, 59, 59⟩ ∧
    ofSeconds (-1) = ⟨1969, 12, 31, 23, 59, 59⟩ := by decide +kernel

/-- The number of days since the first of January 1970. -/
def dayNumber (moment : Moment) : Int :=
  dayOfDate moment.year moment.month moment.day

/-- The number of seconds since the first of January 1970. -/
def seconds (moment : Moment) : Int :=
  moment.dayNumber * secondsPerDay + moment.hour * 3600 + moment.minute * 60 + moment.second

/-- The day of the week, zero for Sunday. -/
def weekday (moment : Moment) : Nat :=
  ((moment.dayNumber + 4) % 7).toNat

/-- The day of the year, zero for the first of January. -/
def dayOfYear (moment : Moment) : Nat :=
  (moment.dayNumber - dayOfDate moment.year 1 1).toNat

def dayNames : List String :=
  ["Sunday", "Monday", "Tuesday", "Wednesday", "Thursday", "Friday", "Saturday"]

def monthNames : List String :=
  ["January", "February", "March", "April", "May", "June", "July", "August", "September",
    "October", "November", "December"]

def dayName (moment : Moment) : List Char :=
  (dayNames.getD moment.weekday "").toList

def monthName (moment : Moment) : List Char :=
  (monthNames.getD (moment.month - 1) "").toList

/-- The hour on a dial of twelve. -/
def dialHour (moment : Moment) : Nat :=
  if moment.hour % 12 = 0 then 12 else moment.hour % 12

def halfOfDay (moment : Moment) : String :=
  if moment.hour < 12 then "AM" else "PM"

/-- The number of weeks begun in the year, where a week begins `start` days after Sunday. -/
def weekOfYear (moment : Moment) (start : Nat) : Nat :=
  (moment.dayOfYear + 7 - (moment.weekday + 7 - start) % 7) / 7

/-- The year and the number of a week that belongs to the year in which its Thursday lies. -/
def thursdayWeek (moment : Moment) : Int × Nat :=
  let thursday := moment.dayNumber - ((moment.weekday + 6) % 7 : Nat) + 3
  let (year, _, _) := dateOfDay thursday
  (year, ((thursday - dayOfDate year 1 1) / 7).toNat + 1)

/-- The years that a calendar of 32 bits counts, and those that it can also write. -/
def firstYear : Int := -2147481748

def lastYear : Int := 2147485547

def lastWrittenYear : Int := 2147483647

def isWord (seconds : Int) : Bool :=
  -0x8000000000000000 ≤ seconds && seconds < 0x8000000000000000

def wholeSeconds : Document → Except Failure Int
  | .bool value => .ok (if value then 1 else 0)
  | .int seconds => .ok seconds
  | .float seconds =>
      match Number.floor? seconds with
      | some seconds => .ok seconds
      | none => .error (if Number.isNotANumber seconds then .unreadable else .tooLarge)
  | _ => .error .wrongShape

/-- The seconds that a number stands for, where they have a date that can be written. -/
def writableSeconds (written : Document) : Except Failure Int := do
  let seconds ← wholeSeconds written
  if !isWord seconds then throw .tooLarge
  let year := (ofSeconds seconds).year
  if year < firstYear || lastYear < year then throw .refusedBySystem
  if lastWrittenYear < year then throw .tooLarge
  return seconds

end Moment

end EngineBridge.Log
