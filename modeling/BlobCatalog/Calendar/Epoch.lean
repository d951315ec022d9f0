import BlobCatalog.Calendar.DateTime

/-!
# Times since 1970

A time of a computer's clock is counted from the start of 1970 in universal time.
-/

namespace BlobCatalog.Calendar

/-- The number of the first day of 1970. -/
def epochDay : Nat := daysBeforeYear 1970 + 1

/-- The time a number of microseconds after the start of 1970, unless the calendar ends before. -/
def DateTime.ofEpoch? (micros : Nat) : Option DateTime := do
  let seconds := micros / 1000000
  let date ← Date.ofDayNumber? (epochDay + seconds / daySeconds)
  let rest := seconds % daySeconds
  let time ← PlainTime.ofParts? date (rest / 3600) (rest / 60 % 60) (rest % 60) (micros % 1000000)
    (some 0)
  return time

end BlobCatalog.Calendar
