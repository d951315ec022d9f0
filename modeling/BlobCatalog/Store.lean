import BlobCatalog.Key
import BlobCatalog.Log
import BlobCatalog.Property
import BlobCatalog.Table

/-!
# Stores

A store keeps the records of one kind as rows of a table that several stores may share. Each
operation is one step on that table: `Store.insert` adds a record, `Store.fetch` reads one,
`Store.update` saves a changed record if nobody else has saved it since it was read, and
`Store.delete` removes one. An update compares the signature that the record carries with the
stored one and gives the record a new signature when it succeeds.
-/

namespace BlobCatalog

open Calendar (DateTime)

/-! ## Rows and records -/

namespace Row

/-- The cell of a time or of nothing. -/
def timeCell (time : Option DateTime) : Cell := Cell.ofString? (time.map (·.isoText))

/-- The row of a record stored under a key. -/
def ofContent (key : Key) (content : Content) : Except Fault Row := do
  let kind ← Cell.ofText key.kind
  let name ← Cell.ofText key.name
  let size ← Cell.ofValue content.size
  let status ← Cell.ofInteger content.status
  let storeKey ← Cell.ofValue content.storeKey
  let recordKey ← Cell.ofValue content.recordKey
  let signature ← Cell.ofText? content.signature
  return { kind, name, size, status, storeKey, recordKey
           createdAt := timeCell content.createdAt, updatedAt := timeCell content.updatedAt
           signature }

/-- The row with the values given by column name. -/
def ofFields (fields : Fields) : Except Fault Row := do
  let cell := fun name => Cell.ofValue (fields.getOrAbsent name)
  return { kind := ← cell "kind", name := ← cell "name", size := ← cell "size"
           status := ← cell "status", storeKey := ← cell "store_key"
           recordKey := ← cell "record_key", createdAt := ← cell "created_at"
           updatedAt := ← cell "updated_at", signature := ← cell "signature" }

/-- The time stamp that a cell holds. -/
def readTime : Cell → Except Fault Value
  | .null => .ok .absent
  | .text content =>
    match Calendar.readTime? content with
    | some time => .ok (.dateTime time)
    | none => .error .unreadable
  | _ => .error .wrongKind

/-- The property list that a row holds. -/
def properties (row : Row) : Except Fault (List Value) := do
  let createdAt ← readTime row.createdAt
  let updatedAt ← readTime row.updatedAt
  return [.property sizeName row.size.toValue, .property statusName row.status.toValue,
    .property storeKeyName row.storeKey.toValue, .property recordKeyName row.recordKey.toValue,
    .property timestampsName (.list
      [.property createdAtName createdAt, .property updatedAtName updatedAt,
        .property signatureName row.signature.toValue])]

/-- The record that the values of the columns make up. -/
def readValues (row : Row) : Except Fault Blob := do
  let key ← Key.ofFields [("kind", row.kind.toValue), ("name", row.name.toValue)]
  let identifier ← key.identifier
  let properties ← row.properties
  Blob.ofItems properties (.uuid identifier)

/-- A column of the row holds a garbled text. -/
def isGarbled (row : Row) : Bool := row.cells.any Cell.isGarbled

/-- The record that a row holds. All columns are decoded before anything is made of them. -/
def toBlob (row : Row) : Except Fault Blob :=
  if row.isGarbled then .error .garbled else row.readValues

end Row

/-! ## Operations -/

/-- The result of a step on the table, with the table after it and what was logged. -/
structure Effect (α : Type) where
  outcome : Except Fault α
  table : Table
  log : List LogEntry

/-- The result of an update: also the caller's record and the supply after it. -/
structure Update extends Effect Unit where
  record : Record
  supply : Supply

/-- A store of the records of one kind. -/
structure Store where
  kind : Value

namespace Store

/-- A log entry of the store. -/
def entry (level : LogLevel) (text : Text) : LogEntry := ⟨level, .store, text⟩

/-- Add a record under its key. -/
def insert (store : Store) (record : Record) (table : Table) : Effect Unit :=
  let row : Except Fault (Key × Row) := do
    let key ← record.storageKey store.kind
    let content ← record.content
    return (key, ← Row.ofContent key content)
  match row with
  | .error fault => ⟨.error fault, table, []⟩
  | .ok (key, row) =>
    match table.insert? row with
    | none => ⟨.error (.alreadyExists record.key), table, []⟩
    | some table => ⟨.ok (), table, [entry .debug ("Created blob ref " ++ key.text)]⟩

/-- The record stored under the text of a key, if there is one. -/
def fetch (store : Store) (key : Value) (table : Table) : Except Fault (Option Blob) := do
  let text ← key.spelled
  let kind ← Cell.ofValue store.kind
  let name ← Cell.ofText text
  match table.find? kind name with
  | some row => return some (← row.toBlob)
  | none => return none

/-- Remove the record stored under the text of a key. -/
def delete (store : Store) (key : Value) (table : Table) : Effect Unit :=
  let row : Except Fault (Text × Cell × Cell) := do
    let text ← key.spelled
    return (text, ← Cell.ofValue store.kind, ← Cell.ofText text)
  match row with
  | .error fault => ⟨.error fault, table, []⟩
  | .ok (text, kind, name) =>
    ⟨.ok (), table.erase kind name,
      [entry .debug ("Deleted blob ref " ++ store.kind.shown ++ "/" ++ text)]⟩

/-- What an update is bound to: the new content of the columns, and the kind, the name and the
signature of the row. -/
structure Parameters where
  change : Table.Change
  kind : Cell
  name : Cell
  expected : Cell

/-- The parameters of an update to the content of a record with a drawn signature. They are bound
one after another. -/
def parameters (key : Key) (content : Content) (signature : Value) : Except Fault Parameters := do
  let text ← signature.spelled
  let status ← Cell.ofInteger content.status
  let drawn ← Cell.ofText text
  let kind ← Cell.ofText key.kind
  let name ← Cell.ofText key.name
  let expected ← Cell.ofText? content.signature
  return ⟨⟨status, Row.timeCell content.updatedAt, drawn⟩, kind, name, expected⟩

/-- The rest of an update whose change is written: the drawn identifier becomes the signature of the
record, and the status is named in the log. Both may fail. -/
def written (key : Key) (content : Content) (id : Value) (record : Record) (changed : Table)
    (after : Supply) : Update :=
  let ended := fun (outcome : Except Fault Unit) (log : List LogEntry) =>
    ({ outcome, table := changed, log, record := record.withSignature id
       supply := after } : Update)
  match record.noteAssigned with
  | .error fault => ended (.error fault) []
  | .ok _ =>
    match Status.ofCode? content.status with
    | some status =>
      ended (.ok ()) [entry .debug ("Updated blob ref " ++ key.text ++ " to " ++ status.name)]
    | none => ended (.error (.noStatus (.integer content.status))) []

/-- Save the status and the time of the last update of a record. The drawn identifier becomes the
signature of the row and of the record. -/
def update (store : Store) (record : Record) (table : Table) (supply : Supply) : Update :=
  let refused := fun (fault : Fault) (supply : Supply) (log : List LogEntry) =>
    ({ outcome := .error fault, table, log, record, supply } : Update)
  let prepared : Except Fault (Key × Content) := do
    let key ← record.storageKey store.kind
    return (key, ← record.content)
  match prepared with
  | .error fault => refused fault supply []
  | .ok (key, content) =>
    match supply.drawId with
    | (.error fault, supply) => refused fault supply []
    | (.ok signature, supply) =>
      match parameters key content signature with
      | .error fault => refused fault supply []
      | .ok ⟨change, kind, name, expected⟩ =>
        match table.update? kind name expected change with
        | some table =>
          written key content signature record table supply
        | none =>
          match table.find? kind name with
          | none => refused (.notFound record.key) supply []
          | some _ =>
            let text := "Signature mismatch updating blob ref " ++ key.text
            refused (.modified record.key) supply [entry .warning text]

end Store

end BlobCatalog
