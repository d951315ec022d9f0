import BlobCatalog.Path
import BlobCatalog.Record
import BlobCatalog.Text.Json

/-!
# Printed records

A record as one line of JSON, with the name of its status and the place of its object. A `Locator`
places objects in a directory: the object of a record lies under the text of the record's key.
-/

namespace BlobCatalog

open BlobCatalog.Text

/-- Where objects lie: in a directory, each under the text of its record's key. -/
structure Locator where
  directory : Path

namespace Locator

/-- The place of a record's object. -/
def locate (locator : Locator) (record : Record) : Except Fault Text :=
  record.objectPath.map fun name => (locator.directory.join (Path.ofText name)).text

end Locator

/-- The status that a value is equal to. -/
def Status.ofValue? (value : Value) : Option Status :=
  Status.all.find? fun status => value.same (.status status)

/-- A number that is no integer as JSON shows it. -/
def numberText (value : Float) : String :=
  match Binary64.parts value with
  | .notANumber => "NaN"
  | .infinite negative => if negative then "-Infinity" else "Infinity"
  | .finite _ _ _ => Binary64.text value

namespace Value

mutual

/-- Why a value cannot be printed: the first part that is of an unknown kind or that holds bytes
which encode no text. -/
def obstacle? : Value → Option Fault
  | bytes content => if (decodeBytes? content).isSome then none else some .undecodable
  | list items => obstacleAmong? items
  | tuple items => obstacleAmong? items
  | mapping members => obstacleInside? members
  | property _ value => obstacle? value
  | stamps createdAt updatedAt signature | looseStamps createdAt updatedAt signature =>
    (obstacle? createdAt).or ((obstacle? updatedAt).or (obstacle? signature))
  | thing => some .unprintable
  | _ => none

/-- Why one of several values cannot be printed. -/
def obstacleAmong? : List Value → Option Fault
  | [] => none
  | item :: rest => (obstacle? item).or (obstacleAmong? rest)

/-- Why one of several named values cannot be printed. -/
def obstacleInside? : List (String × Value) → Option Fault
  | [] => none
  | (_, value) :: rest => (obstacle? value).or (obstacleInside? rest)

end

mutual

/-- A value as JSON. What cannot be printed is left empty. -/
def toJson : Value → Json
  | absent => .null
  | boolean value => .boolean value
  | integer value => .integer value
  | float value => .number (numberText value)
  | text content => .text content
  | bytes content => .text (.ofString ((decodeBytes? content).getD ""))
  | dateTime value => .text value.shortText
  | date value => .text value.isoText
  | uuid value => .text value.text
  | status value => .integer value.code
  | list items => .array (itemsToJson items)
  | tuple items => .array (itemsToJson items)
  | mapping members => .object (membersToJson members)
  | property name value => .object [("name", .text name), ("value", toJson value)]
  | stamps createdAt updatedAt signature | looseStamps createdAt updatedAt signature =>
    .object [("created_at", toJson createdAt), ("updated_at", toJson updatedAt),
      ("signature", toJson signature)]
  | thing => .null

/-- Values as the items of a JSON array. -/
def itemsToJson : List Value → List Json
  | [] => []
  | item :: rest => toJson item :: itemsToJson rest

/-- Named values as the members of a JSON object. -/
def membersToJson : List (String × Value) → List (String × Json)
  | [] => []
  | (name, value) :: rest => (name, toJson value) :: membersToJson rest

end

end Value

namespace Record

/-- The values of the fields of a record. -/
def fieldValues (record : Record) : List Value :=
  [record.key, record.size, record.status, record.storeKey, record.recordKey, record.timestamps]

/-- A record as JSON, with the name of its status and the place of its object. -/
def toJson (record : Record) (locator : Locator) : Except Fault Json := do
  if let some fault := Value.obstacleAmong? record.fieldValues then throw fault
  let status ← match Status.ofValue? record.status with
    | some status => .ok status.name
    | none => .error (.noStatus record.status)
  let location ← locator.locate record
  return .object [("key", record.key.toJson), ("size", record.size.toJson),
    ("status", .text status), ("store_key", record.storeKey.toJson),
    ("record_key", record.recordKey.toJson), ("timestamps", record.timestamps.toJson),
    ("object_location", .text location)]

/-- The line that shows a record. -/
def printed (record : Record) (locator : Locator) : Except Fault String :=
  (record.toJson locator).map Json.render

end Record

end BlobCatalog
