import BlobCatalog.Field

/-!
# Records

A record describes one stored object: its key, its size, its status, the store and the entry it
belongs to, and its time stamps. `Blob` is a record whose fields are all of their types; `Record`
holds any values, as a record does whose fields were assigned by hand. `Blob.toRecord` embeds the
first in the second, and `Record.ofFields` checks given values and fills in the missing ones.
`Record.assign` and `Record.assignStamp` change one field.
-/

namespace BlobCatalog

open Calendar (DateTime)
open Checked (andAlso)

/-- The time stamps of a record and the signature of its stored version. -/
structure Stamps where
  createdAt : Option DateTime
  updatedAt : Option DateTime
  signature : Option Uuid
deriving DecidableEq

/-- A record whose fields are all of their types. -/
structure Blob where
  key : Option Uuid
  size : Nat
  status : Status
  storeKey : Text
  recordKey : Text
  stamps : Stamps
deriving DecidableEq

/-- A record whose fields hold any values. -/
structure Record where
  key : Value
  size : Value
  status : Value
  storeKey : Value
  recordKey : Value
  timestamps : Value

/-! ## Typed records among all records -/

namespace Value

/-- An identifier or nothing. -/
def ofUuid? : Option Uuid → Value
  | some value => .uuid value
  | none => .absent

/-- A time or nothing. -/
def ofTime? : Option DateTime → Value
  | some value => .dateTime value
  | none => .absent

end Value

namespace Stamps

/-- No stamps at all. -/
def empty : Stamps := ⟨none, none, none⟩

/-- Typed stamps as a value. -/
def toValue (stamps : Stamps) : Value :=
  .stamps (.ofTime? stamps.createdAt) (.ofTime? stamps.updatedAt) (.ofUuid? stamps.signature)

end Stamps

namespace Blob

/-- The record with no content. -/
def empty : Blob := ⟨none, 0, .unknown, "", "", .empty⟩

/-- A typed record as a record. -/
def toRecord (blob : Blob) : Record :=
  { key := .ofUuid? blob.key
    size := .integer blob.size
    status := .status blob.status
    storeKey := .text blob.storeKey
    recordKey := .text blob.recordKey
    timestamps := blob.stamps.toValue }

end Blob

/-! ## Checked construction -/

/-- Values given by name. -/
abbrev Fields := List (String × Value)

namespace Fields

/-- The value given under a name. -/
def get? (fields : Fields) (name : String) : Option Value := fields.lookup name

/-- The value given under a name or nothing. -/
def getOrAbsent (fields : Fields) (name : String) : Value := (fields.get? name).getD .absent

end Fields

/-- Time stamps from checked values; a path leads to them. -/
def Stamps.checked (path : List String) (createdAt updatedAt signature : Value) :
    Checked Stamps :=
  let createdAt := Checked.at? (path ++ ["created_at"]) (Field.time createdAt)
  let updatedAt := Checked.at? (path ++ ["updated_at"]) (Field.time updatedAt)
  let signature := Checked.at? (path ++ ["signature"]) (Field.identifier signature)
  andAlso (andAlso (createdAt.map Stamps.mk) updatedAt) signature

/-- Time stamps from the values given by name. -/
def Stamps.ofFields (path : List String) (fields : Fields) : Checked Stamps :=
  Stamps.checked path (fields.getOrAbsent "created_at") (fields.getOrAbsent "updated_at")
    (fields.getOrAbsent "signature")

/-- The stamps of a record field: stamps are kept as they are, a mapping is checked. -/
def Field.stamps (path : List String) : Value → Checked Value
  | .stamps createdAt updatedAt signature => .ok (.stamps createdAt updatedAt signature)
  | .looseStamps createdAt updatedAt signature => .ok (.looseStamps createdAt updatedAt signature)
  | .mapping members => (Stamps.ofFields path members).map Stamps.toValue
  | _ => .error [⟨path, .notStamps⟩]

namespace Record

/-- A given value checked by a rule, or the default. -/
def checkedField (fields : Fields) (name : String) (default : Value)
    (rule : Value → Except FieldCause Value) : Checked Value :=
  match fields.get? name with
  | some value => Checked.at? [name] (rule value)
  | none => .ok default

/-- The record with checked fields. Every refused field is named, in the order of the fields. -/
def checked (fields : Fields) : Checked Record :=
  let key := checkedField fields "key" .absent fun value =>
    (Field.identifier value).map Value.ofUuid?
  let size := checkedField fields "size" (.integer 0) fun value =>
    (Field.size value).map fun number => .integer number
  let status := checkedField fields "status" (.status .unknown) fun value =>
    (Field.status value).map Value.status
  let storeKey := checkedField fields "store_key" (.text "") fun value =>
    (Field.text value).map Value.text
  let recordKey := checkedField fields "record_key" (.text "") fun value =>
    (Field.text value).map Value.text
  let timestamps := match fields.get? "timestamps" with
    | some value => Field.stamps ["timestamps"] value
    | none => .ok Stamps.empty.toValue
  let identified := andAlso (andAlso (key.map Record.mk) size) status
  andAlso (andAlso (andAlso identified storeKey) recordKey) timestamps

/-- The record with checked fields, or a fault that names every refused field. -/
def ofFields (fields : Fields) : Except Fault Record :=
  (checked fields).mapError Fault.invalid

/-- The record with the given values as they are. -/
def ofRawFields (fields : Fields) : Record :=
  { key := (fields.get? "key").getD .absent
    size := (fields.get? "size").getD (.integer 0)
    status := (fields.get? "status").getD (.status .unknown)
    storeKey := (fields.get? "store_key").getD (.text "")
    recordKey := (fields.get? "record_key").getD (.text "")
    timestamps := (fields.get? "timestamps").getD Stamps.empty.toValue }

/-! ## Assignment -/

/-- The fields that are fixed when a record is made. -/
def frozenFields : List String := ["key", "size", "store_key", "record_key"]

/-- A name that belongs to nobody's fields and may be assigned without effect. -/
def isPrivateName (name : String) : Bool := name.toList.head? == some '_'

/-- A record with one field assigned. The value is not checked; a fixed field is refused. -/
def assign (record : Record) (field : String) (value : Value) : Except Fault Record :=
  if frozenFields.contains field then .error (.invalid [⟨[field], .frozenField⟩])
  else if field = "status" then .ok { record with status := value }
  else if field = "timestamps" then .ok { record with timestamps := value }
  else if isPrivateName field then .ok record
  else .error .unreadable

/-- Time stamps with one field assigned. The value is not checked. A field of loose time stamps is
assigned too, before the assignment fails (`noteAssigned`). -/
def assignInStamps (stamps : Value) (field : String) (value : Value) : Except Fault Value :=
  match stamps with
  | .stamps createdAt updatedAt signature =>
    if field = "created_at" then .ok (.stamps value updatedAt signature)
    else if field = "updated_at" then .ok (.stamps createdAt value signature)
    else if field = "signature" then .ok (.stamps createdAt updatedAt value)
    else if isPrivateName field then .ok stamps
    else .error .unreadable
  | .looseStamps createdAt updatedAt signature =>
    if field = "created_at" then .ok (.looseStamps value updatedAt signature)
    else if field = "updated_at" then .ok (.looseStamps createdAt value signature)
    else if field = "signature" then .ok (.looseStamps createdAt updatedAt value)
    else if isPrivateName field then .ok stamps
    else .error .unreadable
  | .property name held =>
    if isPrivateName field then .ok (.property name held)
    else .error (.invalid [⟨[field], .frozenRecord⟩])
  | _ => .error .lacksOperation

/-- A record with one field of its time stamps assigned. -/
def assignStamp (record : Record) (field : String) (value : Value) : Except Fault Record :=
  (assignInStamps record.timestamps field value).map fun stamps =>
    { record with timestamps := stamps }

/-- The time stamps of a record note that one of their fields was set. Loose ones cannot. -/
def noteAssigned (record : Record) : Except Fault Unit :=
  match record.timestamps with
  | .looseStamps _ _ _ => .error .lacksOperation
  | _ => .ok ()

/-! ## Equality -/

/-- Equality of records, field by field. -/
def same (left right : Record) : Bool :=
  left.key.same right.key && left.size.same right.size && left.status.same right.status &&
    left.storeKey.same right.storeKey && left.recordKey.same right.recordKey &&
    left.timestamps.same right.timestamps

/-- The path of the object that a record describes: the text of its key. -/
def objectPath (record : Record) : Except Fault Text :=
  match record.key with
  | .absent => .error .noKey
  | key => key.spelled

end Record

end BlobCatalog
