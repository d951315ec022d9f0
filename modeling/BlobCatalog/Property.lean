import BlobCatalog.Record.Lifecycle

/-!
# Property lists

A record is stored as five named properties: its size, the code of its status, the two texts, and
its time stamps as a property list of their own. `Record.toProperties` writes them in that order;
`Blob.ofProperties` reads a list in any order, passes over names it does not know, lets the last
property of a name win, and gives absent fields their empty values. The time of the last update is
raised to the time of creation once the whole list is read.
-/

namespace BlobCatalog

open Calendar (DateTime)

/-! ## Names -/

/-- The name of the size property. -/
def sizeName : String := "Size"

/-- The name of the status property. -/
def statusName : String := "Status"

/-- The name of the property that says which store a record belongs to. -/
def storeKeyName : String := "StoreKey"

/-- The name of the property that says which entry of the store a record belongs to. -/
def recordKeyName : String := "RecordKey"

/-- The name of the property with the time stamps. -/
def timestampsName : String := "Timestamps"

/-- The name of the time of creation among the time stamps. -/
def createdAtName : String := "CreatedAt"

/-- The name of the time of the last update among the time stamps. -/
def updatedAtName : String := "UpdatedAt"

/-- The name of the signature among the time stamps. -/
def signatureName : String := "Signature"

/-! ## Writing -/

/-- The integer that a value is turned into. -/
def Value.toInteger : Value → Except Fault Int
  | .float value =>
    match Binary64.parts value with
    | .notANumber => .error .unreadable
    | .infinite _ => .error .outOfRange
    | .finite _ _ _ => .ok ((Binary64.truncated? value).getD 0)
  | .text content =>
    match content.chars?.bind Text.readDecimal? with
    | some number => .ok number
    | none => .error .unreadable
  | .bytes content =>
    match Text.readDecimal? (content.map fun byte => Char.ofNat byte.toNat) with
    | some number => if content.all (· < 0x80) then .ok number else .error .unreadable
    | none => .error .unreadable
  | .uuid value => .ok value.value
  | other =>
    match other.integer? with
    | some number => .ok number
    | none => .error .wrongKind

/-- What is stored of a record besides its key. -/
structure Content where
  size : Value
  status : Int
  storeKey : Value
  recordKey : Value
  createdAt : Option DateTime
  updatedAt : Option DateTime
  signature : Option Text

/-- A time stamp that may be written: nothing, or a time with an offset. -/
def writableStamp (name : String) : Value → Except Fault (Option DateTime)
  | .absent => .ok none
  | .dateTime time => if time.isAware then .ok (some time) else .error (.naiveStamp name time)
  | _ => .error .lacksOperation

/-- The text of a signature that is written. -/
def signatureText : Value → Except Fault (Option Text)
  | .absent => .ok none
  | held => held.spelled.map some

/-- What is stored of a record. The status is written as its code and the signature as text. -/
def Record.content (record : Record) : Except Fault Content := do
  let status ← record.status.toInteger
  match record.timestamps with
  | .stamps createdAt updatedAt signature | .looseStamps createdAt updatedAt signature =>
    let createdAt ← writableStamp createdAtName createdAt
    let updatedAt ← writableStamp updatedAtName updatedAt
    let signature ← signatureText signature
    return { size := record.size, status, storeKey := record.storeKey
             recordKey := record.recordKey, createdAt, updatedAt, signature }
  | _ => throw .lacksOperation

namespace Value

/-- A text or nothing. -/
def ofText? : Option Text → Value
  | some content => .text content
  | none => .absent

end Value

namespace Content

/-- The property list of the time stamps. -/
def stampProperties (content : Content) : List Value :=
  [.property createdAtName (.ofTime? content.createdAt),
    .property updatedAtName (.ofTime? content.updatedAt),
    .property signatureName (.ofText? content.signature)]

/-- The property list of a record. The key is not among the properties. -/
def toProperties (content : Content) : List Value :=
  [.property sizeName content.size, .property statusName (.integer content.status),
    .property storeKeyName content.storeKey, .property recordKeyName content.recordKey,
    .property timestampsName (.list content.stampProperties)]

end Content

/-- The property list of a record, or why it cannot be written. -/
def Record.toProperties (record : Record) : Except Fault (List Value) :=
  record.content.map Content.toProperties

/-! ## Reading -/

/-- The items that a value is gone through by: the items of a list, the code points of a text, the
names of a mapping, the numbers of bytes, the fields of a property or of time stamps. -/
def Value.items : Value → Except Fault (List Value)
  | .list items => .ok items
  | .tuple items => .ok items
  | .text content => .ok (content.points.map fun point => .text ⟨[point]⟩)
  | .mapping members => .ok (members.map fun member => .text (.ofString member.1))
  | .bytes content => .ok (content.map fun byte => .integer byte.toNat)
  | .property name value =>
    .ok [.tuple [.text "name", .text name], .tuple [.text "value", value]]
  | .stamps createdAt updatedAt signature | .looseStamps createdAt updatedAt signature =>
    .ok [.tuple [.text "created_at", createdAt], .tuple [.text "updated_at", updatedAt],
      .tuple [.text "signature", signature]]
  | _ => .error .wrongKind

/-- An integer property: a number or a status, but no truth value. -/
def readInteger (name : String) : Value → Except Malformation Int
  | .integer number => .ok number
  | .status status => .ok status.code
  | other => .error (.notInteger name other.kindName)

/-- A size property. -/
def readSize (name : String) (value : Value) : Except Malformation Nat :=
  match readInteger name value with
  | .ok number => if number < 0 then .error (.negative name number) else .ok number.toNat
  | .error cause => .error cause

/-- A status property: the code of a status. -/
def readStatus (name : String) (value : Value) : Except Malformation Status :=
  match readInteger name value with
  | .ok code =>
    match Status.ofCode? code with
    | some status => .ok status
    | none => .error (.unknownCode name code)
  | .error cause => .error cause

/-- A text property. -/
def readText (name : String) : Value → Except Malformation Text
  | .text content => .ok content
  | other => .error (.notText name other.kindName)

/-- A time property: nothing, or a time with an offset. -/
def readStamp (name : String) : Value → Except Malformation (Option DateTime)
  | .absent => .ok none
  | .dateTime time => if time.isAware then .ok (some time) else .error (.naive name time)
  | other => .error (.notTime name other.kindName)

/-- A signature property: nothing, an identifier, or the text of one. -/
def readSignature (name : String) : Value → Except Malformation (Option Uuid)
  | .absent => .ok none
  | .uuid value => .ok (some value)
  | .text content =>
    match Uuid.ofText? content with
    | some value => .ok (some value)
    | none => .error (.unreadableSignature name content)
  | other => .error (.notText name other.kindName)

/-- The name of a property inside the property `outer`. -/
def innerName (outer inner : String) : String := outer ++ "." ++ inner

/-- Time stamps after one more property. -/
def Stamps.readProperty (outer : String) (stamps : Stamps) :
    Value → Except Malformation Stamps
  | .property name value =>
    if name = createdAtName then
      (readStamp (innerName outer name) value).map fun time => { stamps with createdAt := time }
    else if name = updatedAtName then
      (readStamp (innerName outer name) value).map fun time => { stamps with updatedAt := time }
    else if name = signatureName then
      (readSignature (innerName outer name) value).map fun id => { stamps with signature := id }
    else .ok stamps
  | other => .error (.notInnerProperty outer other.kindName)

/-- Time stamps whose last update is not before their creation. -/
def Stamps.settle (stamps : Stamps) : Stamps :=
  { stamps with updatedAt := stamps.updatedAt.map fun time => time.notBefore stamps.createdAt }

/-- Time stamps from their property list. -/
def Stamps.ofProperties (outer : String) (items : List Value) : Except Malformation Stamps :=
  (items.foldlM (Stamps.readProperty outer) Stamps.empty).map Stamps.settle

/-- The property with the time stamps. -/
def readStamps (name : String) : Value → Except Malformation Stamps
  | .list items => Stamps.ofProperties name items
  | .tuple items => Stamps.ofProperties name items
  | other => .error (.notComposite name other.kindName)

/-- A record after one more property. -/
def Blob.readProperty (blob : Blob) : Value → Except Malformation Blob
  | .property name value =>
    if name = sizeName then (readSize name value).map fun size => { blob with size }
    else if name = statusName then (readStatus name value).map fun status => { blob with status }
    else if name = storeKeyName then
      (readText name value).map fun storeKey => { blob with storeKey }
    else if name = recordKeyName then
      (readText name value).map fun recordKey => { blob with recordKey }
    else if name = timestampsName then
      (readStamps name value).map fun stamps => { blob with stamps }
    else .ok blob
  | other => .error (.notProperty other.kindName)

/-- The record with the given properties and key. -/
def Blob.ofItems (items : List Value) (key : Value) : Except Fault Blob :=
  match items.foldlM Blob.readProperty Blob.empty with
  | .error cause => .error (.ofMalformation cause)
  | .ok blob =>
    match Checked.at? ["key"] (Field.identifier key) with
    | .error faults => .error (.rejected faults)
    | .ok key => .ok { blob with key }

/-- The record that a property list and a key describe. -/
def Blob.ofProperties (properties key : Value) : Except Fault Blob := do
  let items ← properties.items
  Blob.ofItems items key

/-- The record after it is written as properties and read again. -/
def Record.reload (record : Record) : Except Fault Blob := do
  let properties ← record.toProperties
  Blob.ofItems properties record.key

end BlobCatalog
