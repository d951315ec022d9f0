import BlobCatalog.Calendar.Iso
import BlobCatalog.Number.Shortest
import BlobCatalog.Text.Quoted
import BlobCatalog.Value

/-!
# Text of values

Two texts of a value. `Value.quoted` shows it with its kind, as messages about bad values do;
`Value.shown` is its plain text, which for texts is the content and for identifiers the canonical
form. `Value.label` is the name of a status or property and the plain text of anything else. An
integer with too many digits has no text, and neither has a value that holds one
(`Value.isWritable`).
-/

namespace BlobCatalog

open BlobCatalog.Text

/-- A number of microseconds as a quoted span of time: days, seconds and microseconds, of which only
the days may be negative. -/
def quotedSpan (micros : Int) : String :=
  let seconds := Int.fdiv micros Calendar.secondMicros
  let days := Int.fdiv seconds Calendar.daySeconds
  let rest := Int.fmod seconds Calendar.daySeconds
  let micro := Int.fmod micros Calendar.secondMicros
  let parts := (if days = 0 then [] else ["days=" ++ integerText days]) ++
    (if rest = 0 then [] else ["seconds=" ++ integerText rest]) ++
    (if micro = 0 then [] else ["microseconds=" ++ integerText micro])
  "datetime.timedelta(" ++ (if parts.isEmpty then "0" else ", ".intercalate parts) ++ ")"

/-- A quoted fixed offset from universal time. -/
def quotedOffset (micros : Int) : String :=
  if micros = 0 then "datetime.timezone.utc"
  else "datetime.timezone(" ++ quotedSpan micros ++ ")"

/-- A quoted zone, after the mark of a time that is shown for the second time. -/
def quotedZone (place : Calendar.ZonePlace) : String :=
  (if place.isSecond then ", fold=1" else "") ++
    ", tzinfo=zoneinfo.ZoneInfo(key=" ++ Text.quoted place.name ++ ")"

/-- A quoted time. Seconds and microseconds are left out from the end while they are zero. -/
def quotedTime (time : Calendar.DateTime) : String :=
  let clock := [time.date.year, time.date.month, time.date.day, time.hour, time.minute] ++
    (if time.second = 0 ∧ time.micro = 0 then []
      else time.second :: if time.micro = 0 then [] else [time.micro])
  let offset := match time.zone, time.offset with
    | some place, _ => quotedZone place
    | none, some micros => ", tzinfo=" ++ quotedOffset micros
    | none, none => ""
  "datetime.datetime(" ++ ", ".intercalate (clock.map decimalText) ++ offset ++ ")"

/-- A quoted date. -/
def quotedDate (date : Calendar.Date) : String :=
  "datetime.date(" ++ ", ".intercalate ([date.year, date.month, date.day].map decimalText) ++ ")"

namespace Value

mutual

/-- A value with its kind, as messages about bad values show it. -/
def quoted : Value → String
  | absent => "None"
  | boolean true => "True"
  | boolean false => "False"
  | integer value => integerText value
  | float value => Binary64.text value
  | text content => Text.quoted content
  | bytes content => quotedBytes content
  | dateTime value => quotedTime value
  | date value => quotedDate value
  | uuid value => "UUID('" ++ value.text ++ "')"
  | status value => "<BlobStatus." ++ value.name ++ ": " ++ decimalText value.code ++ ">"
  | list items => "[" ++ ", ".intercalate (quotedItems items) ++ "]"
  | tuple [only] => "(" ++ quoted only ++ ",)"
  | tuple items => "(" ++ ", ".intercalate (quotedItems items) ++ ")"
  | mapping members => "\x7b" ++ ", ".intercalate (quotedMembers members) ++ "\x7d"
  | property name value => "Property(name=" ++ Text.quoted name ++ ", value=" ++ quoted value ++ ")"
  | stamps createdAt updatedAt signature | looseStamps createdAt updatedAt signature =>
    "Timestamps(created_at=" ++ quoted createdAt ++ ", updated_at=" ++ quoted updatedAt ++
      ", signature=" ++ quoted signature ++ ")"
  | thing => "<object>"

/-- The quoted items of a list. -/
def quotedItems : List Value → List String
  | [] => []
  | item :: rest => quoted item :: quotedItems rest

/-- The quoted members of a mapping. -/
def quotedMembers : List (String × Value) → List String
  | [] => []
  | (name, value) :: rest => (Text.quoted name ++ ": " ++ quoted value) :: quotedMembers rest

end

/-- The plain text of a value. -/
def shown : Value → Text
  | text content => content
  | dateTime value => value.spacedText
  | date value => value.isoText
  | uuid value => value.text
  | status value => "BlobStatus." ++ value.name
  | property name value => "name=" ++ Text.quoted name ++ " value=" ++ quoted value
  | stamps createdAt updatedAt signature | looseStamps createdAt updatedAt signature =>
    "created_at=" ++ quoted createdAt ++ " updated_at=" ++ quoted updatedAt ++
      " signature=" ++ quoted signature
  | other => quoted other

/-- The name of a status or property, the plain text of anything else. -/
def label : Value → Text
  | status value => value.name
  | property name _ => name
  | other => shown other

mutual

/-- The value has a text: it holds no integer with too many digits. -/
def isWritable : Value → Bool
  | integer value => Text.isWritable value
  | list items => areWritable items
  | tuple items => areWritable items
  | mapping members => areMembersWritable members
  | property _ value => isWritable value
  | stamps createdAt updatedAt signature | looseStamps createdAt updatedAt signature =>
    isWritable createdAt && isWritable updatedAt && isWritable signature
  | _ => true

/-- All of the values have a text. -/
def areWritable : List Value → Bool
  | [] => true
  | item :: rest => isWritable item && areWritable rest

/-- All of the named values have a text. -/
def areMembersWritable : List (String × Value) → Bool
  | [] => true
  | (_, value) :: rest => isWritable value && areMembersWritable rest

end

end Value

end BlobCatalog
