import BlobCatalog.Calendar.DateTime
import BlobCatalog.Text.Integer

/-!
# ISO text of times

Times are written as `YYYY-MM-DDTHH:MM:SS`, with microseconds and the seconds of an offset only when
they are not zero (`PlainTime.isoText`). They are read more liberally (`readTime?`): the date may be
basic, extended or a week date, any one character may stand before the time of day, the time of day
may stop at hours or minutes, be basic or extended, and hold a fraction of any length; the offset is
`Z` or has the form of a time of day, and one of less than a second is read as zero. A character of
code 0 ends the text. `PlainTime.shortText` is the form of printed records, where offset zero is `Z`
and an offset is rounded to seconds and cut to minutes.
-/

namespace BlobCatalog.Calendar

open BlobCatalog.Text

/-! ## Writing -/

/-- A date as `YYYY-MM-DD`. -/
def Date.isoChars (date : Date) : List Char :=
  padded 4 date.year ++ '-' :: (padded 2 date.month ++ '-' :: padded 2 date.day)

/-- A date as `YYYY-MM-DD`. -/
def Date.isoText (date : Date) : String := String.ofList date.isoChars

/-- Microseconds after a point, or nothing for zero. -/
def fractionChars (micro : Nat) : List Char :=
  if micro = 0 then [] else '.' :: padded 6 micro

/-- The sign of an offset. -/
def signChar (offset : Int) : Char := if offset < 0 then '-' else '+'

/-- An offset as `+HH:MM`, followed by its seconds and microseconds when they are not zero. -/
def offsetChars (micros : Int) : List Char :=
  let size := micros.natAbs / secondMicros
  let micro := micros.natAbs % secondMicros
  signChar micros :: (padded 2 (size / 3600) ++ ':' :: (padded 2 (size / 60 % 60) ++
    (if size % 60 = 0 ∧ micro = 0 then []
      else ':' :: (padded 2 (size % 60) ++ fractionChars micro))))

/-- An offset rounded to seconds. -/
def roundedSeconds (micros : Int) : Int :=
  micros.sign * ((micros.natAbs + secondMicros / 2) / secondMicros : Nat)

/-- An offset in seconds to the minute, `Z` for none. -/
def shortOffsetChars (seconds : Int) : List Char :=
  if seconds = 0 then ['Z']
  else
    let size := seconds.natAbs
    signChar seconds :: (padded 2 (size / 3600) ++ ':' :: padded 2 (size / 60 % 60))

namespace PlainTime

/-- The time of day with its fraction. -/
def clockChars (time : PlainTime) : List Char :=
  padded 2 time.hour ++ ':' :: (padded 2 time.minute ++ ':' :: (padded 2 time.second ++
    fractionChars time.micro))

/-- A time with a separator between date and time of day and its offset written by `offset`. -/
def chars (time : PlainTime) (separator : Char) (offset : Int → List Char) : List Char :=
  time.date.isoChars ++ separator :: (time.clockChars ++ (time.offset.map offset).getD [])

/-- The text of a time in stored rows and messages. -/
def isoText (time : PlainTime) : String := String.ofList (time.chars 'T' offsetChars)

/-- The text of a time in a list or as a bound value: a blank between date and time of day. -/
def spacedText (time : PlainTime) : String := String.ofList (time.chars ' ' offsetChars)

/-- The text of a time in a printed record. -/
def shortText (time : PlainTime) : String :=
  String.ofList (time.chars 'T' fun micros => shortOffsetChars (roundedSeconds micros))

end PlainTime

/-! ## Reading -/

/-- A number of exactly `width` ASCII digits at the front of a text, with the rest. -/
def takeNumber? (width : Nat) (text : List Char) : Option (Nat × List Char) :=
  let front := text.take width
  if front.length = width ∧ front.all Char.isDigit then
    some (ofDigits 10 (front.filterMap asciiDigit?), text.drop width)
  else none

/-- The rest of a text after a character. -/
def skip? (c : Char) : List Char → Option (List Char)
  | head :: rest => if head = c then some rest else none
  | [] => none

/-- A time of day or an offset as read: its numbers, and whether text was left over. -/
structure ClockReading where
  hour : Nat
  minute : Nat
  second : Nat
  micro : Nat
  leftover : Bool
deriving DecidableEq, Repr

/-- Nothing is left of a text: it is empty or goes on with the character of code 0. -/
def isOver : List Char → Bool
  | [] => true
  | c :: _ => c.toNat == 0

/-- A fraction of a second, cut to microseconds. Up to six digits the text has to hold nothing
else; after six digits further digits are dropped. -/
def readFraction? (hour minute second : Nat) (text : List Char) : Option ClockReading := do
  let width := min text.length 6
  let (number, rest) ← takeNumber? width text
  let leftover := !isOver (rest.dropWhile Char.isDigit)
  return ⟨hour, minute, second, number * Nat.pow 10 (6 - width), leftover⟩

/-- A reading followed by one stray character, which has to be an ASCII character. It is left over
unless it ends the text. -/
def strayAfter? (stray : Char) (reading : ClockReading) : Option ClockReading :=
  if stray.toNat < 0x80 then some { reading with leftover := !isOver [stray] } else none

/-- What follows the seconds. With colons a fourth colon may take the place of the point. -/
def readAfterSecond? (colons : Bool) (hour minute second : Nat) :
    List Char → Option ClockReading
  | [] => some ⟨hour, minute, second, 0, false⟩
  | [stray] => strayAfter? stray ⟨hour, minute, second, 0, false⟩
  | mark :: rest =>
    if mark = '.' ∨ mark = ',' ∨ (colons ∧ mark = ':') then
      readFraction? hour minute second rest
    else if colons then none
    else readFraction? hour minute second (mark :: rest)

/-- What follows the minutes. -/
def readAfterMinute? (colons : Bool) (hour minute : Nat) : List Char → Option ClockReading
  | [] => some ⟨hour, minute, 0, 0, false⟩
  | [stray] => strayAfter? stray ⟨hour, minute, 0, 0, false⟩
  | mark :: rest =>
    if colons ∧ mark = ':' then do
      let (second, rest) ← takeNumber? 2 rest
      readAfterSecond? colons hour minute second rest
    else if mark = '.' ∨ mark = ',' then readFraction? hour minute 0 rest
    else if colons then none
    else do
      let (second, rest) ← takeNumber? 2 (mark :: rest)
      readAfterSecond? colons hour minute second rest

/-- What follows the hours: the first mark says whether colons separate the numbers. -/
def readAfterHour? (hour : Nat) : List Char → Option ClockReading
  | [] => some ⟨hour, 0, 0, 0, false⟩
  | [stray] => strayAfter? stray ⟨hour, 0, 0, 0, false⟩
  | mark :: rest =>
    if mark = ':' then do
      let (minute, rest) ← takeNumber? 2 rest
      readAfterMinute? true hour minute rest
    else if mark = '.' ∨ mark = ',' then readFraction? hour 0 0 rest
    else do
      let (minute, rest) ← takeNumber? 2 (mark :: rest)
      readAfterMinute? false hour minute rest

/-- The numbers of a time of day or of an offset. One ASCII character, or anything after six digits
of a fraction, is left over. -/
def readClock? (text : List Char) : Option ClockReading := do
  let (hour, rest) ← takeNumber? 2 text
  readAfterHour? hour rest

/-- A character that starts an offset. -/
def startsOffset (c : Char) : Bool := c == '+' || c == '-' || c == 'Z'

/-- The microseconds of an offset, from its first character on. Without a whole second they do not
count. -/
def readOffset? : List Char → Option Int
  | sign :: rest =>
    if sign = 'Z' then
      if isOver rest then some 0 else none
    else do
      let reading ← readClock? rest
      if reading.leftover then none
      else
        let seconds := reading.hour * 3600 + reading.minute * 60 + reading.second
        let micros := if seconds = 0 then 0 else seconds * secondMicros + reading.micro
        return if sign = '-' then -(micros : Int) else micros
  | [] => none

/-- A time of day with its offset. Text left over before an offset is passed over. -/
def readClockOn? (date : Date) (text : List Char) : Option PlainTime := do
  let clock := text.takeWhile (fun c => !startsOffset c)
  let offset := text.dropWhile (fun c => !startsOffset c)
  let reading ← readClock? clock
  if offset.isEmpty then
    if reading.leftover then none
    else PlainTime.ofParts? date reading.hour reading.minute reading.second reading.micro none
  else do
    let micros ← readOffset? offset
    PlainTime.ofParts? date reading.hour reading.minute reading.second reading.micro (some micros)

/-- The length of the date at the front of a text, decided by its fifth character and what follows
it. A week date in basic form ends before its day when an odd number of digits is left after
it. -/
def dateLength (text : List Char) : Nat :=
  if text.length = 7 then 7
  else
    match text.drop 4 with
    | '-' :: 'W' :: _ =>
      if (text.drop 8).head? = some '-' then
        if text.length > 10 ∧ ((text.drop 10).head?.any Char.isDigit) then 8 else 10
      else 8
    | '-' :: _ => 10
    | 'W' :: _ =>
      let digits := ((text.drop 7).takeWhile Char.isDigit).length
      if digits < 2 then 7 + digits
      else if digits % 2 = 0 then 8 else 7
    | _ => 8

/-- The date that a text of the length found by `dateLength` names. -/
def readDate? (text : List Char) : Option Date := do
  let (year, rest) ← takeNumber? 4 text
  let dashed := rest.head? = some '-'
  let rest := if dashed then rest.drop 1 else rest
  if rest.head? = some 'W' then
    let (week, rest) ← takeNumber? 2 (rest.drop 1)
    if rest.isEmpty then Date.ofWeek? year week 1
    else
      let rest ← if dashed then skip? '-' rest else some rest
      let (day, _) ← takeNumber? 1 rest
      Date.ofWeek? year week day
  else
    let (month, rest) ← takeNumber? 2 rest
    let rest ← if dashed then skip? '-' rest else some rest
    let (day, _) ← takeNumber? 2 rest
    Date.ofParts? year month day

/-- The time that a text names. A text that ends with the date names the start of the date. -/
def readTime? (text : String) : Option PlainTime := do
  let text := text.toList
  if text.length < 7 then none
  let length := dateLength text
  let date ← readDate? (text.take length)
  match text.drop length with
  | [] => return PlainTime.startOf date
  | _ :: clock => readClockOn? date clock

end BlobCatalog.Calendar
