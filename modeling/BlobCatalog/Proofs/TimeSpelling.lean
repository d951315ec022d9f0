import BlobCatalog.Proofs.FixedDigits
import Mathlib.Data.List.TakeWhile

/-!
# Spellings of a time

A time may be written in many ways. The date stands by month and day or by week and weekday, the
time of day and the offset stop at the hour, the minute or the second, all of them in extended form
with marks between the numbers or in basic form without, and a fraction has any number of digits.
Nothing in a text says which of these forms it is in, and the forms overlap: the eighth character of
`2024W094 03` is a weekday, that of `2024W09 03` stands before the time of day.

`PlainTime.IsSpelledBy` collects the spellings of a time, part by part. The reader finds the end of
the date from the date's own characters (`dateLength_of_isSpelledBy`), and the end of the time of
day from the first character of an offset (`not_startsOffset_of_isSpelledBy`). So it cuts every
spelling where its parts meet, and reads it as the time that it spells
(`readTime?_of_isSpelledBy`).
-/

namespace BlobCatalog.Text

/-- What stands between two numbers: a mark in extended form, nothing in basic form. -/
def between (isExtended : Bool) (mark : Char) : List Char := if isExtended then [mark] else []

end BlobCatalog.Text

namespace BlobCatalog.Calendar

open BlobCatalog.Text

/-! ## The date -/

/-- The text is a way to write the date. -/
inductive Date.IsSpelledBy (date : Date) : List Char → Prop
  /-- Year, month and day. -/
  | day (isExtended : Bool) :
      date.IsSpelledBy (padded 4 date.year ++ (between isExtended '-' ++
        (padded 2 date.month ++ (between isExtended '-' ++ padded 2 date.day))))
  /-- Year and week, for the Monday of the week. -/
  | week (isExtended : Bool) {year week : Nat} (isYear : year ≤ lastYear)
      (isDate : Date.ofWeek? year week 1 = some date) :
      date.IsSpelledBy (padded 4 year ++ (between isExtended '-' ++ 'W' :: padded 2 week))
  /-- Year, week and day of the week, 1 for Monday. -/
  | weekday (isExtended : Bool) {year week day : Nat} (isYear : year ≤ lastYear)
      (isDate : Date.ofWeek? year week day = some date) :
      date.IsSpelledBy (padded 4 year ++ (between isExtended '-' ++ 'W' :: (padded 2 week ++
        (between isExtended '-' ++ padded 1 day))))

/-- The character is neither a digit nor a hyphen, which might belong to the date before it. -/
def IsSeparator (c : Char) : Prop := c.isDigit = false ∧ c ≠ '-'

instance (c : Char) : Decidable (IsSeparator c) := inferInstanceAs (Decidable (_ ∧ _))

theorem padded_one (number : Nat) : padded 1 number = [hexDigit (number % 10)] := rfl

/-- The two characters of a padded decimal of width two. -/
theorem padded_two (number : Nat) :
    padded 2 number = [hexDigit (number / 10 % 10), hexDigit (number % 10)] := rfl

/-- The four characters of a padded decimal of width four. -/
theorem padded_four (number : Nat) :
    padded 4 number = [hexDigit (number / 10 / 10 / 10 % 10), hexDigit (number / 10 / 10 % 10),
      hexDigit (number / 10 % 10), hexDigit (number % 10)] := rfl

/-- A written digit is no mark. -/
theorem hexDigit_ne {value : Nat} {mark : Char} (hmark : mark.isDigit = false) :
    hexDigit (value % 10) ≠ mark := by
  rintro rfl
  rw [isDigit_hexDigit _ (Nat.mod_lt _ (by decide))] at hmark
  exact absurd hmark (by decide)

/-- After the year a hyphen and no `W` begin the extended form by months. -/
theorem dateLength_hyphen {year : Nat} {first : Char} {rest : List Char} (hfirst : first ≠ 'W')
    (hlong : rest.length ≠ 1) : dateLength (padded 4 year ++ '-' :: first :: rest) = 10 := by
  have hlength : (padded 4 year ++ '-' :: first :: rest).length ≠ 7 := by simp; omega
  have hdrop : (padded 4 year ++ '-' :: first :: rest).drop 4 = '-' :: first :: rest := rfl
  simp only [dateLength, hlength, if_false, hdrop]
  split
  · next hweek => exact absurd (List.cons.inj (List.cons.inj hweek).2).1 hfirst
  · rfl
  · next hcons => exact absurd (List.cons.inj hcons).1 (by decide)
  · next hother _ => exact absurd rfl (hother _)

/-- After the year neither a hyphen nor a `W` begins the basic form by months. -/
theorem dateLength_plain {year : Nat} {first : Char} {rest : List Char} (hhyphen : first ≠ '-')
    (hweek : first ≠ 'W') (hlong : rest.length ≠ 2) :
    dateLength (padded 4 year ++ first :: rest) = 8 := by
  have hlength : (padded 4 year ++ first :: rest).length ≠ 7 := by simp; omega
  have hdrop : (padded 4 year ++ first :: rest).drop 4 = first :: rest := rfl
  simp only [dateLength, hlength, if_false, hdrop]
  split
  · next hcons => exact absurd (List.cons.inj hcons).1 hhyphen
  · next hcons => exact absurd (List.cons.inj hcons).1 hhyphen
  · next hcons => exact absurd (List.cons.inj hcons).1 hweek
  · rfl

/-- The date at the front of a text is found in full, unless a digit or a hyphen follows it. -/
theorem dateLength_of_isSpelledBy {date : Date} {text rest : List Char}
    (h : date.IsSpelledBy text) (hrest : ∀ c ∈ rest.head?, IsSeparator c) :
    dateLength (text ++ rest) = text.length := by
  have hdigit : ∀ value, (hexDigit (value % 10)).isDigit = true :=
    fun _ => isDigit_hexDigit _ (Nat.mod_lt _ (by decide))
  have hplain : rest.head?.any Char.isDigit = false := by
    cases rest with
    | nil => rfl
    | cons c rest => exact (hrest c rfl).1
  have hstop : rest.takeWhile Char.isDigit = [] := by
    cases rest with
    | nil => rfl
    | cons c rest => exact List.takeWhile_cons_of_neg (by simp [(hrest c rfl).1])
  have hnone : rest.head? ≠ some '-' := fun hhead => (hrest '-' hhead).2 rfl
  cases h with
  | day isExtended =>
    cases isExtended with
    | true => exact dateLength_hyphen (hexDigit_ne (by decide)) (by simp)
    | false =>
      refine dateLength_plain (hexDigit_ne (by decide)) (hexDigit_ne (by decide)) ?_
      simp [between]
      omega
  | week isExtended isYear isDate =>
    -- A hyphen or a digit after the week would be taken for a weekday.
    cases isExtended with
    | true => simp [dateLength, between, padded_four, padded_two, hnone]
    | false => simp [dateLength, between, padded_four, padded_two, hstop]
  | weekday isExtended isYear isDate =>
    -- A digit after the weekday would make the reader end the date at the week.
    cases isExtended with
    | true => simp [dateLength, between, padded_four, padded_two, padded_one, hplain]
    | false => simp [dateLength, between, padded_four, padded_two, padded_one, hstop, hdigit]

example : dateLength "2024W094 03".toList = 8 ∧ dateLength "2024W09 03".toList = 7 := by decide

theorem monthLength_le (year month : Nat) : monthLength year month ≤ 31 := by
  unfold monthLength
  split
  · split <;> decide
  all_goals decide

/-- The parts of a date fit the widths they are written with. -/
theorem Date.parts_lt (date : Date) :
    date.year < Nat.pow 10 4 ∧ date.month < Nat.pow 10 2 ∧ date.day < Nat.pow 10 2 := by
  obtain ⟨⟨-, hyear⟩, ⟨-, hmonth⟩, -, hday⟩ := date.isDay
  have hlength := monthLength_le date.year date.month
  have hlast : lastYear = 9999 := rfl
  have hfour : Nat.pow 10 4 = 10000 := rfl
  have htwo : Nat.pow 10 2 = 100 := rfl
  omega

/-- The week and the weekday of a date fit the widths they are written with. -/
theorem Date.week_lt {year week day : Nat} {date : Date} (h : ofWeek? year week day = some date) :
    week < Nat.pow 10 2 ∧ day < Nat.pow 10 1 := by
  have htwo : Nat.pow 10 2 = 100 := rfl
  have hone : Nat.pow 10 1 = 10 := rfl
  unfold ofWeek? at h
  split at h
  · exact absurd h (by simp)
  · split at h
    · exact absurd h (by simp)
    · omega

/-- A mark that was read before stands between the next two numbers as well. -/
theorem skip?_between (isExtended : Bool) (mark : Char) (rest : List Char) :
    (if isExtended = true then skip? mark (between isExtended mark ++ rest)
      else some (between isExtended mark ++ rest)) = some rest := by
  cases isExtended <;> simp [between, skip?]

/-- A digit after the year begins a month. -/
theorem readDate?_month {isExtended : Bool} {year : Nat} {first : Char} {rest : List Char}
    (hyear : year < Nat.pow 10 4) (hhyphen : first ≠ '-') (hweek : first ≠ 'W') :
    readDate? (padded 4 year ++ (between isExtended '-' ++ first :: rest)) =
      (takeNumber? 2 (first :: rest)).bind fun (month, rest) =>
        (if isExtended = true then skip? '-' rest else some rest).bind fun rest =>
          (takeNumber? 2 rest).bind fun (day, _) => Date.ofParts? year month day := by
  cases isExtended <;> simp [readDate?, between, takeNumber?_padded hyear, hhyphen, hweek]

/-- A `W` after the year begins a week. -/
theorem readDate?_week {isExtended : Bool} {year : Nat} {rest : List Char}
    (hyear : year < Nat.pow 10 4) :
    readDate? (padded 4 year ++ (between isExtended '-' ++ 'W' :: rest)) =
      (takeNumber? 2 rest).bind fun (week, rest) =>
        if rest.isEmpty then Date.ofWeek? year week 1
        else
          (if isExtended = true then skip? '-' rest else some rest).bind fun rest =>
            (takeNumber? 1 rest).bind fun (day, _) => Date.ofWeek? year week day := by
  cases isExtended <;> simp [readDate?, between, takeNumber?_padded hyear]

/-- Every spelling of a date is read as that date. -/
theorem readDate?_of_isSpelledBy {date : Date} {text : List Char} (h : date.IsSpelledBy text) :
    readDate? text = some date := by
  cases h with
  | day isExtended =>
    obtain ⟨hyear, hmonth, hday⟩ := date.parts_lt
    have hmonths := takeNumber?_padded hmonth (between isExtended '-' ++ padded 2 date.day)
    rw [padded_two date.month, List.cons_append] at hmonths ⊢
    rw [readDate?_month hyear (hexDigit_ne (by decide)) (hexDigit_ne (by decide)), hmonths]
    simp only [Option.bind_some, skip?_between, takeNumber?_padded_all hday, Date.ofParts?_parts]
  | week isExtended isYear isDate =>
    obtain ⟨hweek, -⟩ := Date.week_lt isDate
    rw [readDate?_week (Nat.lt_succ_of_le isYear), takeNumber?_padded_all hweek]
    exact isDate
  | @weekday isExtended year week day isYear isDate =>
    obtain ⟨hweek, hday⟩ := Date.week_lt isDate
    have hmore : (between isExtended '-' ++ padded 1 day).isEmpty = false := by
      cases isExtended <;> rfl
    rw [readDate?_week (Nat.lt_succ_of_le isYear), takeNumber?_padded hweek]
    simp only [Option.bind_some, hmore, Bool.false_eq_true, if_false, skip?_between,
      takeNumber?_padded_all hday, isDate]

/-! ## The time of day -/

/-- The microseconds of the digits after a point. The first six count, and missing ones are
zero. -/
def microsOf (digits : List Nat) : Nat := ofDigits 10 ((digits ++ List.replicate 6 0).take 6)

/-- The text is a way to write the numbers of a time of day, or of an offset without its sign. -/
inductive ClockReading.IsSpelledBy : ClockReading → List Char → Prop
  /-- The hour alone. -/
  | hour {hour : Nat} : IsSpelledBy ⟨hour, 0, 0, 0, false⟩ (padded 2 hour)
  /-- Hour and minute. -/
  | minute (isExtended : Bool) {hour minute : Nat} :
      IsSpelledBy ⟨hour, minute, 0, 0, false⟩
        (padded 2 hour ++ (between isExtended ':' ++ padded 2 minute))
  /-- Hour, minute and second. -/
  | second (isExtended : Bool) {hour minute second : Nat} :
      IsSpelledBy ⟨hour, minute, second, 0, false⟩
        (padded 2 hour ++ (between isExtended ':' ++ (padded 2 minute ++
          (between isExtended ':' ++ padded 2 second))))
  /-- Hour, minute and second with any number of digits behind a point or a comma. -/
  | fraction (isExtended : Bool) {hour minute second : Nat} {point : Char} {digits : List Nat}
      (isPoint : point = '.' ∨ point = ',') (isSome : digits ≠ [])
      (areDigits : ∀ digit ∈ digits, digit < 10) :
      IsSpelledBy ⟨hour, minute, second, microsOf digits, false⟩
        (padded 2 hour ++ (between isExtended ':' ++ (padded 2 minute ++
          (between isExtended ':' ++ (padded 2 second ++ point :: digits.map hexDigit)))))

/-- Minutes after the hours are read, and what follows them is read after them. -/
theorem readClock?_minute (isExtended : Bool) {hour minute : Nat} (hhour : hour < Nat.pow 10 2)
    (hminute : minute < Nat.pow 10 2) (rest : List Char) :
    readClock? (padded 2 hour ++ (between isExtended ':' ++ (padded 2 minute ++ rest))) =
      readAfterMinute? isExtended hour minute rest := by
  have hmark : ∀ mark : Char, mark.isDigit = false → hexDigit (minute / 10 % 10) ≠ mark :=
    fun _ => hexDigit_ne
  have hread := takeNumber?_padded hminute rest
  rw [padded_two minute] at hread ⊢
  simp only [List.cons_append, List.nil_append] at hread ⊢
  -- In basic form the first digit of the minutes takes the place of the mark.
  cases isExtended with
  | true => simp [readClock?, takeNumber?_padded hhour, readAfterHour?, between, hread]
  | false =>
    simp [readClock?, takeNumber?_padded hhour, readAfterHour?, between, hread,
      hmark ':' (by decide), hmark '.' (by decide), hmark ',' (by decide)]

/-- Seconds after the minutes are read, and what follows them is read after them. -/
theorem readAfterMinute?_second (isExtended : Bool) (hour minute : Nat) {second : Nat}
    (hsecond : second < Nat.pow 10 2) (rest : List Char) :
    readAfterMinute? isExtended hour minute (between isExtended ':' ++ (padded 2 second ++ rest)) =
      readAfterSecond? isExtended hour minute second rest := by
  have hmark : ∀ mark : Char, mark.isDigit = false → hexDigit (second / 10 % 10) ≠ mark :=
    fun _ => hexDigit_ne
  have hread := takeNumber?_padded hsecond rest
  rw [padded_two second] at hread ⊢
  simp only [List.cons_append, List.nil_append] at hread ⊢
  cases isExtended with
  | true => simp [readAfterMinute?, between, hread]
  | false =>
    simp [readAfterMinute?, between, hread, hmark '.' (by decide), hmark ',' (by decide)]

/-- Zeros take the place of missing digits, so the first digits count for a power of ten. -/
theorem microsOf_eq (digits : List Nat) :
    microsOf digits = ofDigits 10 (digits.take 6) * Nat.pow 10 (6 - digits.length) := by
  have hzeros : (List.replicate 6 0).take (6 - digits.length) =
      List.replicate (6 - digits.length) 0 := by
    rw [List.take_replicate, Nat.min_eq_left (Nat.sub_le 6 _)]
  rw [microsOf, List.take_append, hzeros, ofDigits_append_replicate]

/-- The digits of a fraction are read as its microseconds. -/
theorem readFraction?_digits (hour minute second : Nat) {digits : List Nat}
    (h : ∀ digit ∈ digits, digit < 10) :
    readFraction? hour minute second (digits.map hexDigit) =
      some ⟨hour, minute, second, microsOf digits, false⟩ := by
  have hfront : ∀ digit ∈ digits.take 6, digit < 10 :=
    fun digit hdigit => h digit (List.mem_of_mem_take hdigit)
  have hread := takeNumber?_map hfront ((digits.drop 6).map hexDigit)
  rw [← List.map_append, List.take_append_drop, List.length_take, Nat.min_comm] at hread
  -- Digits after the sixth are dropped, so that nothing is left over.
  have hrest : ((digits.drop 6).map hexDigit).dropWhile Char.isDigit = [] :=
    List.dropWhile_eq_nil_iff.2 fun c hc =>
      isDigit_of_mem_map (fun digit hdigit => h digit (List.mem_of_mem_drop hdigit)) hc
  have hmissing : 6 - min digits.length 6 = 6 - digits.length := by omega
  simp only [readFraction?, List.length_map, hread, hrest, hmissing, microsOf_eq,
    Option.bind_eq_bind, Option.bind_some]
  rfl

/-- A point and digits after the seconds are read as a fraction. -/
theorem readAfterSecond?_fraction (isExtended : Bool) (hour minute second : Nat) {point : Char}
    {digits : List Nat} (hpoint : point = '.' ∨ point = ',') (hsome : digits ≠ [])
    (h : ∀ digit ∈ digits, digit < 10) :
    readAfterSecond? isExtended hour minute second (point :: digits.map hexDigit) =
      some ⟨hour, minute, second, microsOf digits, false⟩ := by
  have hread := readFraction?_digits hour minute second h
  obtain ⟨first, others, rfl⟩ := List.exists_cons_of_ne_nil hsome
  have hmark : point = '.' ∨ point = ',' ∨ isExtended = true ∧ point = ':' :=
    hpoint.imp_right .inl
  rw [List.map_cons] at hread ⊢
  simp only [readAfterSecond?, hmark, if_true, hread]

/-- Every spelling of a time of day is read as its numbers, with nothing left over. -/
theorem readClock?_of_isSpelledBy {reading : ClockReading} {text : List Char}
    (h : reading.IsSpelledBy text)
    (hclock : IsClock reading.hour reading.minute reading.second reading.micro) :
    readClock? text = some reading := by
  have htwo : ∀ number < 60, number < Nat.pow 10 2 :=
    fun number hlt => Nat.lt_trans hlt (by decide)
  obtain ⟨hhour, hminute, hsecond, -⟩ := hclock
  have hhours := htwo _ (Nat.lt_trans hhour (by decide))
  have hminutes := htwo _ hminute
  have hseconds := htwo _ hsecond
  cases h with
  | hour => rw [readClock?, takeNumber?_padded_all hhours]; rfl
  | @minute isExtended hour minute =>
    have hread := readClock?_minute isExtended hhours hminutes []
    rw [List.append_nil] at hread
    rw [hread]
    rfl
  | @second isExtended hour minute second =>
    have hread := readAfterMinute?_second isExtended hour minute hseconds []
    rw [List.append_nil] at hread
    rw [readClock?_minute isExtended hhours hminutes, hread]
    rfl
  | fraction isExtended isPoint isSome areDigits =>
    rw [readClock?_minute isExtended hhours hminutes,
      readAfterMinute?_second isExtended _ _ hseconds,
      readAfterSecond?_fraction isExtended _ _ _ isPoint isSome areDigits]

/-! ## The offset -/

/-- A number of microseconds as hours, minutes, seconds and microseconds. -/
def ClockReading.ofMicros (size : Nat) : ClockReading :=
  ⟨size / secondMicros / 3600, size / secondMicros / 60 % 60, size / secondMicros % 60,
    size % secondMicros, false⟩

/-- What a size of an offset counts for: less than a second does not count. -/
def counted (size : Nat) : Nat := if size < secondMicros then 0 else size

/-- The text is a way to write the offset, or nothing if there is none. -/
inductive IsOffsetSpelledBy : Option Int → List Char → Prop
  /-- No offset. -/
  | none : IsOffsetSpelledBy none []
  /-- Universal time. -/
  | utc : IsOffsetSpelledBy (some 0) ['Z']
  /-- Ahead of universal time. -/
  | east {size : Nat} {text : List Char} (isShort : size < daySeconds * secondMicros)
      (isSize : (ClockReading.ofMicros size).IsSpelledBy text) :
      IsOffsetSpelledBy (some (counted size)) ('+' :: text)
  /-- Behind universal time. -/
  | west {size : Nat} {text : List Char} (isShort : size < daySeconds * secondMicros)
      (isSize : (ClockReading.ofMicros size).IsSpelledBy text) :
      IsOffsetSpelledBy (some (-counted size)) ('-' :: text)

/-- The size of an offset is read back. -/
theorem readClock?_ofMicros {size : Nat} {text : List Char}
    (hsize : size < daySeconds * secondMicros)
    (h : (ClockReading.ofMicros size).IsSpelledBy text) :
    readClock? text = some (.ofMicros size) := by
  have hseconds : size / secondMicros < daySeconds :=
    Nat.div_lt_of_lt_mul (Nat.mul_comm _ _ ▸ hsize)
  have hday : daySeconds = 86400 := rfl
  have hhour : size / secondMicros / 3600 < 24 := by omega
  have hminute : size / secondMicros / 60 % 60 < 60 := Nat.mod_lt _ (by decide)
  have hsecond : size / secondMicros % 60 < 60 := Nat.mod_lt _ (by decide)
  exact readClock?_of_isSpelledBy h ⟨hhour, hminute, hsecond, Nat.mod_lt _ (by decide)⟩

/-- The numbers of a size that counts make it up again. -/
theorem counted_eq (size : Nat) :
    (if size / secondMicros / 3600 * 3600 + size / secondMicros / 60 % 60 * 60 +
        size / secondMicros % 60 = 0 then 0
      else (size / secondMicros / 3600 * 3600 + size / secondMicros / 60 % 60 * 60 +
        size / secondMicros % 60) * secondMicros + size % secondMicros) = counted size := by
  have hsum : size / secondMicros / 3600 * 3600 + size / secondMicros / 60 % 60 * 60 +
      size / secondMicros % 60 = size / secondMicros := by omega
  have hzero : size / secondMicros = 0 ↔ size < secondMicros := by
    rw [Nat.div_eq_zero_iff]
    simp [secondMicros]
  rw [hsum, Nat.div_add_mod', counted]
  simp only [hzero]

/-- A sign and the size of an offset are read as that offset. -/
theorem readOffset?_cons {sign : Char} {size : Nat} {text : List Char} (hsign : sign ≠ 'Z')
    (hread : readClock? text = some (.ofMicros size)) :
    readOffset? (sign :: text) =
      some (if sign = '-' then -(counted size : Int) else counted size) := by
  rw [readOffset?, if_neg hsign, hread]
  simp only [ClockReading.ofMicros, Option.bind_eq_bind, Option.bind_some, counted_eq]
  rfl

/-- Every spelling of an offset is read as that offset. -/
theorem readOffset?_of_isSpelledBy {micros : Int} {text : List Char}
    (h : IsOffsetSpelledBy (some micros) text) : readOffset? text = some micros := by
  cases h with
  | utc => rfl
  | east isShort isSize =>
    rw [readOffset?_cons (by decide) (readClock?_ofMicros isShort isSize), if_neg (by decide)]
  | west isShort isSize =>
    rw [readOffset?_cons (by decide) (readClock?_ofMicros isShort isSize), if_pos rfl]

/-! ## Times -/

/-- The numbers of a time of day. -/
def PlainTime.clock (time : PlainTime) : ClockReading :=
  ⟨time.hour, time.minute, time.second, time.micro, false⟩

/-- The text is a way to write the time. -/
inductive PlainTime.IsSpelledBy (time : PlainTime) : List Char → Prop
  /-- The date alone, for its start. -/
  | start {text : List Char} (isDate : time.date.IsSpelledBy text)
      (isStart : time = startOf time.date) : time.IsSpelledBy text
  /-- The date and the time of day, with the offset if there is one. -/
  | clock {date clock offset : List Char} {separator : Char}
      (isDate : time.date.IsSpelledBy date) (isSeparator : IsSeparator separator)
      (isClock : time.clock.IsSpelledBy clock) (isOffset : IsOffsetSpelledBy time.offset offset) :
      time.IsSpelledBy (date ++ separator :: (clock ++ offset))

theorem isDigit_not_startsOffset {c : Char} (h : c.isDigit = true) : startsOffset c = false := by
  have hne : ∀ d : Char, d.isDigit = false → c ≠ d := by
    rintro d hd rfl
    simp [hd] at h
  simp [startsOffset, hne '+' (by decide), hne '-' (by decide), hne 'Z' (by decide)]

/-- No character of a time of day starts an offset. -/
theorem not_startsOffset_of_isSpelledBy {reading : ClockReading} {text : List Char}
    (h : reading.IsSpelledBy text) : ∀ c ∈ text, startsOffset c = false := by
  have hpadded : ∀ {width number : Nat}, ∀ c ∈ padded width number, startsOffset c = false :=
    fun c hc => isDigit_not_startsOffset (isDigit_of_mem_padded hc)
  have hbetween : ∀ isExtended, ∀ c ∈ between isExtended ':', startsOffset c = false := by
    intro isExtended c hc
    cases isExtended with
    | true =>
      obtain rfl := List.mem_singleton.1 hc
      rfl
    | false => exact absurd hc List.not_mem_nil
  cases h with
  | hour => exact hpadded
  | minute isExtended =>
    simp only [List.forall_mem_append]
    exact ⟨hpadded, hbetween isExtended, hpadded⟩
  | second isExtended =>
    simp only [List.forall_mem_append]
    exact ⟨hpadded, hbetween isExtended, hpadded, hbetween isExtended, hpadded⟩
  | @fraction isExtended hour minute second point digits isPoint isSome areDigits =>
    have hpoint : startsOffset point = false := by rcases isPoint with rfl | rfl <;> rfl
    simp only [List.forall_mem_append, List.forall_mem_cons]
    exact ⟨hpadded, hbetween isExtended, hpadded, hbetween isExtended, hpadded, hpoint,
      fun c hc => isDigit_not_startsOffset (isDigit_of_mem_map areDigits hc)⟩

/-- What stands behind a time of day is nothing or starts an offset. -/
theorem startsOffset_of_mem_head? {offset : Option Int} {text : List Char}
    (h : IsOffsetSpelledBy offset text) : ∀ c ∈ text.head?, startsOffset c = true := by
  cases h with
  | none => simp
  | utc | east | west =>
    intro c hc
    obtain rfl := Option.some.inj hc
    rfl

/-- Every spelling of a time of day and an offset is read on its date. -/
theorem readClockOn?_of_isSpelledBy {time : PlainTime} {clock offset : List Char}
    (hclock : time.clock.IsSpelledBy clock) (hoffset : IsOffsetSpelledBy time.offset offset) :
    readClockOn? time.date (clock ++ offset) = some time := by
  have hparts := PlainTime.ofParts?_parts time
  have hread : readClock? clock = some time.clock := readClock?_of_isSpelledBy hclock time.isClock
  -- The time of day ends where the reader meets the sign of the offset, or at the end.
  have htake : (clock ++ offset).takeWhile (fun c => !startsOffset c) = clock :=
    takeWhile_append_of_head
      (fun c hc => by simp [not_startsOffset_of_isSpelledBy hclock c hc])
      (fun c hc => by simp [startsOffset_of_mem_head? hoffset c hc])
  have hdrop : (clock ++ offset).dropWhile (fun c => !startsOffset c) = offset := by
    have hwhole : (clock ++ offset).takeWhile (fun c => !startsOffset c) ++
        (clock ++ offset).dropWhile (fun c => !startsOffset c) = clock ++ offset :=
      List.takeWhile_append_dropWhile
    rw [htake] at hwhole
    exact List.append_cancel_left hwhole
  simp only [readClockOn?, htake, hdrop, hread, Option.bind_eq_bind, Option.bind_some]
  cases hvalue : time.offset with
  | none =>
    rw [hvalue] at hoffset hparts
    cases hoffset
    exact hparts
  | some seconds =>
    rw [hvalue] at hoffset hparts
    have hsign := readOffset?_of_isSpelledBy hoffset
    have hsome : offset.isEmpty = false := by cases hoffset <;> rfl
    rw [hsome, hsign]
    exact hparts

/-- No spelling of a date is too short for the reader. -/
theorem Date.IsSpelledBy.length_ge {date : Date} {text : List Char} (h : date.IsSpelledBy text) :
    7 ≤ text.length := by
  cases h <;> simp <;> omega

/-- **Every spelling of a time is read as that time.** -/
theorem readTime?_of_isSpelledBy {time : PlainTime} {text : String}
    (h : time.IsSpelledBy text.toList) : readTime? text = some time := by
  generalize htext : text.toList = chars at h
  cases h with
  | start isDate isStart =>
    have hlong : ¬chars.length < 7 := Nat.not_lt.2 isDate.length_ge
    have hlength : dateLength (chars ++ []) = chars.length :=
      dateLength_of_isSpelledBy isDate (by simp)
    rw [List.append_nil] at hlength
    simp only [readTime?, htext, hlong, if_false, hlength, List.take_length, List.drop_length,
      readDate?_of_isSpelledBy isDate, Option.bind_eq_bind, Option.bind_some]
    exact congrArg some isStart.symm
  | @clock date clock offset separator isDate isSeparator isClock isOffset =>
    have hlong : ¬(date ++ separator :: (clock ++ offset)).length < 7 := by
      have hdate := isDate.length_ge
      rw [List.length_append]
      omega
    have hlength : dateLength (date ++ separator :: (clock ++ offset)) = date.length :=
      dateLength_of_isSpelledBy isDate fun c hc => Option.some.inj hc ▸ isSeparator
    have htake : (date ++ separator :: (clock ++ offset)).take date.length = date := by simp
    have hdrop : (date ++ separator :: (clock ++ offset)).drop date.length =
        separator :: (clock ++ offset) := by simp
    simp only [readTime?, htext, hlong, if_false, hlength, htake, hdrop,
      readDate?_of_isSpelledBy isDate, Option.bind_eq_bind, Option.bind_some]
    exact readClockOn?_of_isSpelledBy isClock isOffset

end BlobCatalog.Calendar
