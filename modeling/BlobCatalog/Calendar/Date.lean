/-!
# Calendar dates

Dates of the Gregorian calendar from year 1 to year 9999. A `Date` carries the proof that its day
exists. Days are numbered from 1 January of year 1, and a date is also found by its ISO week
(`Date.ofWeek?`).
-/

namespace BlobCatalog.Calendar

/-- The year has a 29 February. -/
def isLeap (year : Nat) : Bool :=
  year % 4 == 0 && (year % 100 != 0 || year % 400 == 0)

/-- The number of days of a month. -/
def monthLength (year month : Nat) : Nat :=
  match month with
  | 2 => if isLeap year then 29 else 28
  | 4 | 6 | 9 | 11 => 30
  | _ => 31

/-- The last year of the calendar. -/
def lastYear : Nat := 9999

/-- The three numbers name a day of the calendar. -/
def IsDay (year month day : Nat) : Prop :=
  (1 ≤ year ∧ year ≤ lastYear) ∧ (1 ≤ month ∧ month ≤ 12) ∧
    (1 ≤ day ∧ day ≤ monthLength year month)

instance (year month day : Nat) : Decidable (IsDay year month day) :=
  inferInstanceAs (Decidable (_ ∧ _ ∧ _))

/-- A day of the calendar. -/
structure Date where
  year : Nat
  month : Nat
  day : Nat
  isDay : IsDay year month day
deriving DecidableEq

namespace Date

/-- The date with the given numbers, if there is such a day. -/
def ofParts? (year month day : Nat) : Option Date :=
  if isDay : IsDay year month day then some ⟨year, month, day, isDay⟩ else none

/-- The numbers of a date name that date. -/
theorem ofParts?_parts (date : Date) : ofParts? date.year date.month date.day = some date := by
  simp [ofParts?, date.isDay]

end Date

/-! ## Day numbers -/

/-- The number of days before the first day of a year. -/
def daysBeforeYear (year : Nat) : Nat :=
  let past := year - 1
  365 * past + past / 4 - past / 100 + past / 400

/-- The number of days of a year before the first day of a month. -/
def daysBeforeMonth (year month : Nat) : Nat :=
  ((List.range (month - 1)).map fun index => monthLength year (index + 1)).foldl (· + ·) 0

/-- The number of a date, 1 for the first day of year 1. -/
def Date.dayNumber (date : Date) : Nat :=
  daysBeforeYear date.year + daysBeforeMonth date.year date.month + date.day

/-- The year that a day number falls in. -/
def yearOfDay (number : Nat) : Nat :=
  let guess := (number - 1) * 400 / 146097 + 1
  if number ≤ daysBeforeYear guess then guess - 1
  else if daysBeforeYear (guess + 1) < number then guess + 1
  else guess

/-- The month and the day of a day counted from the first of the given months. -/
def monthOfDay? (year : Nat) : List Nat → Nat → Option (Nat × Nat)
  | [], _ => none
  | month :: later, day =>
    if day ≤ monthLength year month then some (month, day)
    else monthOfDay? year later (day - monthLength year month)

/-- The date with a day number. -/
def Date.ofDayNumber? (number : Nat) : Option Date := do
  let year := yearOfDay number
  let months := (List.range 12).map (· + 1)
  let (month, day) ← monthOfDay? year months (number - daysBeforeYear year)
  ofParts? year month day

/-! ## ISO weeks -/

/-- The weekday of a day number, 0 for Monday. -/
def weekday (number : Nat) : Nat := (number + 6) % 7

/-- The day number of the Monday that starts week 1 of a year, counted one week later so that it
stays a natural number: week 1 holds the first Thursday. -/
def firstMonday (year : Nat) : Nat :=
  let first := daysBeforeYear year + 1
  let start := weekday first
  if start ≤ 3 then first + 7 - start else first + 14 - start

/-- The year has 53 weeks: it starts on a Thursday, or on a Wednesday if it is a leap year. -/
def hasLongWeeks (year : Nat) : Bool :=
  let start := weekday (daysBeforeYear year + 1)
  start == 3 || (start == 2 && isLeap year)

/-- The date of a day (1 for Monday) of a week of a year. -/
def Date.ofWeek? (year week day : Nat) : Option Date :=
  if year = 0 ∨ week = 0 ∨ 53 < week ∨ (week = 53 ∧ !hasLongWeeks year) then none
  else if day = 0 ∨ 7 < day then none
  else ofDayNumber? (firstMonday year + 7 * (week - 1) + (day - 1) - 7)

end BlobCatalog.Calendar
