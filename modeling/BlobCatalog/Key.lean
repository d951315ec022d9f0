import BlobCatalog.Record

/-!
# Keys of stored records

A record is stored under a kind and the text of its key. `Record.storageKey` forms that pair and
`Key.identifier` reads the record's key back from its name.
-/

namespace BlobCatalog

open Checked (andAlso)

/-- Where a record is stored: a kind and a name. -/
structure Key where
  kind : Text
  name : Text
deriving DecidableEq, Repr

namespace Key

/-- The kind under which records are stored unless another is chosen. -/
def defaultKind : String := "blob"

/-- The text of a key in log lines. -/
def text (key : Key) : Text := key.kind ++ "/" ++ key.name

/-- A given text field, which may not be missing. -/
def requiredText (fields : Fields) (name : String) : Checked Text :=
  match fields.get? name with
  | some value => Checked.at? [name] (Field.text value)
  | none => .error [⟨[name], .missing⟩]

/-- The key with checked fields. -/
def ofFields (fields : Fields) : Except Fault Key :=
  (andAlso ((requiredText fields "kind").map Key.mk) (requiredText fields "name")).mapError
    Fault.invalid

/-- The identifier that the name of a stored record stands for. A name that is no text has no
reading. -/
def identifierOf (name : Value) : Except Fault Uuid :=
  match name with
  | .text content =>
    match Uuid.ofText? content with
    | some key => .ok key
    | none => .error (.unreadableKey name)
  | .absent | .bytes _ | .dateTime _ | .date _ => .error (.unreadableKey name)
  | _ => .error .lacksOperation

/-- The identifier that the name of a key stands for. -/
def identifier (key : Key) : Except Fault Uuid := identifierOf (.text key.name)

end Key

/-- The key that a record is stored under, for a given kind. -/
def Record.storageKey (record : Record) (kind : Value) : Except Fault Key :=
  match record.key with
  | .absent => .error .noKey
  | key => do
    let name ← key.spelled
    Key.ofFields [("kind", kind), ("name", .text name)]

end BlobCatalog
