import BlobCatalog.Calendar.Date

/-!
# Times of day on a date

A `PlainTime` is a date with a time of day to the microsecond and, when it is aware, an offset from
universal time in microseconds, less than a day either way. This is what the text of a time says. A
`DateTime` may also stand in a zone whose offset changes with the seasons.

Two aware times are compared as instants, unless they stand in one zone: then the clock of the zone
decides, although it shows some times of day twice and the later one may be the earlier on the clock
(`DateTime.IsBefore`). `DateTime.notBefore` raises a time to a bound.
-/

namespace BlobCatalog.Calendar

/-- The number of seconds of a day. -/
def daySeconds : Nat := 86400

/-- The number of microseconds of a second. -/
def secondMicros : Nat := 1000000

/-- The four numbers are a time of day. -/
def IsClock (hour minute second micro : Nat) : Prop :=
  hour < 24 ∧ minute < 60 ∧ second < 60 ∧ micro < secondMicros

instance (hour minute second micro : Nat) : Decidable (IsClock hour minute second micro) :=
  inferInstanceAs (Decidable (_ ∧ _ ∧ _ ∧ _))

/-- An offset, if there is one, is shorter than a day. -/
def IsOffset (offset : Option Int) : Prop :=
  ∀ micros ∈ offset, micros.natAbs < daySeconds * secondMicros

instance (offset : Option Int) : Decidable (IsOffset offset) :=
  match offset with
  | none => isTrue (by simp [IsOffset])
  | some micros =>
    if short : micros.natAbs < daySeconds * secondMicros then
      isTrue (by simpa [IsOffset] using short)
    else isFalse (by simpa [IsOffset] using short)

/-! ## Plain times -/

/-- A time of day on a date, with its offset east of universal time in microseconds if it has
one. -/
structure PlainTime where
  date : Date
  hour : Nat
  minute : Nat
  second : Nat
  micro : Nat
  offset : Option Int
  isClock : IsClock hour minute second micro
  isOffset : IsOffset offset
deriving DecidableEq

namespace PlainTime

/-- The time with the given parts, if they are a time of day and an offset. -/
def ofParts? (date : Date) (hour minute second micro : Nat) (offset : Option Int) :
    Option PlainTime :=
  if isClock : IsClock hour minute second micro then
    if isOffset : IsOffset offset then
      some ⟨date, hour, minute, second, micro, offset, isClock, isOffset⟩
    else none
  else none

/-- The parts of a time name that time. -/
theorem ofParts?_parts (time : PlainTime) :
    ofParts? time.date time.hour time.minute time.second time.micro time.offset = some time := by
  simp [ofParts?, time.isClock, time.isOffset]

/-- The time has an offset. -/
def isAware (time : PlainTime) : Bool := time.offset.isSome

/-- The start of a date, without an offset. -/
def startOf (date : Date) : PlainTime :=
  ⟨date, 0, 0, 0, 0, none, by decide, by simp [IsOffset]⟩

/-- The seconds from the start of the calendar to a time as its own clock shows it. -/
def localSeconds (time : PlainTime) : Int :=
  time.date.dayNumber * daySeconds + time.hour * 3600 + time.minute * 60 + time.second

/-- The same to the microsecond. -/
def localMicros (time : PlainTime) : Int := time.localSeconds * secondMicros + time.micro

/-- The instant of a time in microseconds; a time without an offset is taken as universal. -/
def instant (time : PlainTime) : Int := time.localMicros - time.offset.getD 0

/-- An offset that is not zero has at least a second. -/
def KeepsOffset (time : PlainTime) : Prop :=
  ∀ micros ∈ time.offset, micros ≠ 0 → secondMicros ≤ micros.natAbs

end PlainTime

/-! ## Times in zones -/

/-- How a time stands in a zone whose offset changes: the name of the zone, whether the clock of the
zone shows the time for the second time, and whether the offset depends on that. -/
structure ZonePlace where
  name : String
  isSecond : Bool
  isTwofold : Bool
deriving DecidableEq

/-- A time with its place in a zone, if its offset comes from a zone whose offset changes. -/
structure DateTime extends PlainTime where
  zone : Option ZonePlace := none
deriving DecidableEq

instance : Coe PlainTime DateTime := ⟨fun time => { time with }⟩

namespace DateTime

/-- The same time with a fixed offset. -/
def fixed (time : DateTime) : DateTime := time.toPlainTime

/-- The start of a date, without an offset. -/
def startOf (date : Date) : DateTime := PlainTime.startOf date

/-- Both times stand in one zone. -/
def sharesZone (left right : DateTime) : Bool :=
  match left.zone, right.zone with
  | some place, some other => place.name == other.name
  | _, _ => false

/-- The offset of the time depends on which of two times it is. -/
def isTwofold (time : DateTime) : Bool := time.zone.any ZonePlace.isTwofold

/-- The order of times: by the clock in one zone, by instants otherwise. -/
def IsBefore (left right : DateTime) : Prop :=
  if left.sharesZone right then left.localMicros < right.localMicros
  else left.instant < right.instant

instance (left right : DateTime) : Decidable (left.IsBefore right) :=
  inferInstanceAs (Decidable (if left.sharesZone right then left.localMicros < right.localMicros
    else left.instant < right.instant))

/-- Equality of times: by the clock in one zone or without offsets, by instants otherwise, but a
time whose offset depends on which of two it is equals none outside its zone. -/
def same (left right : DateTime) : Bool :=
  left.isAware == right.isAware &&
    if left.sharesZone right then left.localMicros == right.localMicros
    else !left.isTwofold && !right.isTwofold && left.instant == right.instant

/-- A time, or the bound if that is later. A bound without an offset does not count. -/
def notBefore (time : DateTime) (bound : Option DateTime) : DateTime :=
  match bound with
  | some bound => if bound.isAware ∧ time.IsBefore bound then bound else time
  | none => time

/-- The time a number of seconds later at the same offset, unless the calendar ends before. -/
def later? (time : DateTime) (seconds : Nat) : Option DateTime := do
  let total := (time.localSeconds + seconds).toNat
  let date ← Date.ofDayNumber? (total / daySeconds)
  let rest := total % daySeconds
  let later ← PlainTime.ofParts? date (rest / 3600) (rest / 60 % 60) (rest % 60) time.micro
    time.offset
  return later

end DateTime

end BlobCatalog.Calendar
