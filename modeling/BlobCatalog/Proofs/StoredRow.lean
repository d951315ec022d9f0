import BlobCatalog.Proofs.IsoText
import BlobCatalog.Proofs.TableLookup
import BlobCatalog.Proofs.UuidText
import BlobCatalog.Store

/-!
# The row of a record

A typed record whose times have offsets is stored as one row, `Row.ofBlob`. Writing it goes through
the content of the record and the property list to cells, reading it back through cells, property
list and checked fields. `Row.toBlob_ofBlob` states what the whole way gives: the record itself
under its key, with its times as their texts are read (`Stamps.recorded`) and the last update raised
to the creation if it is the earlier instant (`Stamps.settle`). A column changes nothing that is
written to it (`Row.stored_ofBlob`), whatever the texts of the record are; but a text with
surrogates cannot be written (`Blob.IsEncodable`).
-/

namespace BlobCatalog

open Calendar (DateTime)

/-! ## Writing a record -/

/-- The times of a record have offsets, where they are present. -/
def Stamps.AreAware (stamps : Stamps) : Prop :=
  (∀ time ∈ stamps.createdAt, time.isAware = true) ∧
    ∀ time ∈ stamps.updatedAt, time.isAware = true

/-- A time that is raised to a bound stays or becomes the bound. -/
theorem Calendar.DateTime.notBefore_eq_or (time : DateTime) (bound : Option DateTime) :
    time.notBefore bound = time ∨ bound = some (time.notBefore bound) := by
  cases bound with
  | none => exact .inl rfl
  | some held =>
    rw [notBefore]
    split
    · exact .inr rfl
    · exact .inl rfl

/-- What both times of a record have, the settled last update has. -/
theorem Stamps.forall_settle {stamps : Stamps} {p : DateTime → Prop}
    (hcreated : ∀ time ∈ stamps.createdAt, p time)
    (hupdated : ∀ time ∈ stamps.updatedAt, p time) : ∀ time ∈ stamps.settle.updatedAt, p time := by
  intro time htime
  obtain ⟨updated, hheld, rfl⟩ := Option.map_eq_some_iff.1 htime
  rcases updated.notBefore_eq_or stamps.createdAt with hsame | hbound
  · rw [hsame]
    exact hupdated updated hheld
  · exact hcreated _ hbound

/-- Settled times have offsets if the times have. -/
theorem Stamps.AreAware.settle {stamps : Stamps} (h : stamps.AreAware) : stamps.settle.AreAware :=
  ⟨h.1, Stamps.forall_settle h.1 h.2⟩

/-- The texts of a record can be encoded: they are strings. -/
def Blob.IsEncodable (blob : Blob) : Prop := blob.storeKey.IsString ∧ blob.recordKey.IsString

instance (blob : Blob) : Decidable blob.IsEncodable := inferInstanceAs (Decidable (_ ∧ _))

/-- What is stored of a typed record besides its key. -/
def Blob.content (blob : Blob) : Content where
  size := .integer blob.size
  status := blob.status.code
  storeKey := .text blob.storeKey
  recordKey := .text blob.recordKey
  createdAt := blob.stamps.createdAt
  updatedAt := blob.stamps.updatedAt
  signature := blob.stamps.signature.map fun id => .ofString id.text

/-- The row that a typed record is stored as, under a kind and a key. -/
def Row.ofBlob (kind : String) (key : Uuid) (blob : Blob) : Row where
  kind := .text kind
  name := .text key.text
  size := .integer blob.size
  status := .integer blob.status.code
  storeKey := .text blob.storeKey.string
  recordKey := .text blob.recordKey.string
  createdAt := Row.timeCell blob.stamps.createdAt
  updatedAt := Row.timeCell blob.stamps.updatedAt
  signature := Cell.ofString? (blob.stamps.signature.map Uuid.text)

theorem writableStamp_ofTime? (name : String) {time : Option DateTime}
    (h : ∀ value ∈ time, value.isAware = true) :
    writableStamp name (.ofTime? time) = .ok time := by
  cases time with
  | none => rfl
  | some value => simp [Value.ofTime?, writableStamp, h value rfl]

theorem signatureText_ofUuid? (signature : Option Uuid) :
    signatureText (.ofUuid? signature) = .ok (signature.map fun id => .ofString id.text) := by
  cases signature <;> rfl

theorem toInteger_status (status : Status) :
    Value.toInteger (.status status) = .ok (status.code : Int) := rfl

/-- What is stored of a typed record whose signature has another text. -/
def Blob.contentSigned (blob : Blob) (signature : Option Text) : Content :=
  { blob.content with signature }

/-- A record with aware times can be written if its signature has a text, whatever signature it was
given and also after a number was assigned to its status. -/
theorem Blob.content_held {blob : Blob} {status : Value} {number : Int}
    (hstatus : status.toInteger = .ok number) (h : blob.stamps.AreAware) (signature : Value) :
    ({ blob.toRecord with status }.withSignature signature).content =
      (signatureText signature).map fun text =>
        { blob.contentSigned text with status := number } := by
  cases htext : signatureText signature <;>
    simp [Record.content, Record.withSignature, Blob.toRecord, Stamps.toValue, Blob.contentSigned,
      Blob.content, hstatus, htext, writableStamp_ofTime? createdAtName h.1,
      writableStamp_ofTime? updatedAtName h.2, bind, Except.bind, pure, Except.pure, Except.map]

theorem Blob.content_assigned {blob : Blob} {status : Value} {number : Int}
    (hstatus : status.toInteger = .ok number) (h : blob.stamps.AreAware) :
    { blob.toRecord with status }.content = .ok { blob.content with status := number } := by
  have hheld := Blob.content_held hstatus h (.ofUuid? blob.stamps.signature)
  rw [signatureText_ofUuid?] at hheld
  exact hheld

theorem Blob.content_withSignature {blob : Blob} (h : blob.stamps.AreAware) (signature : Value) :
    (blob.toRecord.withSignature signature).content =
      (signatureText signature).map blob.contentSigned :=
  Blob.content_held (toInteger_status blob.status) h signature

/-- A record with aware times can be written. -/
theorem Blob.content_toRecord {blob : Blob} (h : blob.stamps.AreAware) :
    blob.toRecord.content = .ok blob.content :=
  Blob.content_assigned (toInteger_status blob.status) h

/-- Only a record with aware times can be written. -/
theorem Blob.areAware_of_content {blob : Blob} {content : Content}
    (h : blob.toRecord.content = .ok content) : blob.stamps.AreAware := by
  have hstamp : ∀ {name : String} {time written : Option DateTime},
      writableStamp name (.ofTime? time) = .ok written → ∀ value ∈ time, value.isAware = true := by
    rintro name time written hwritten value rfl
    by_cases haware : value.isAware = true
    · exact haware
    · simp [Value.ofTime?, writableStamp, haware] at hwritten
  simp only [Record.content, Blob.toRecord, Stamps.toValue, toInteger_status, bind,
    Except.bind] at h
  split at h
  · simp at h
  · next hcreated =>
    split at h
    · simp at h
    · next hupdated => exact ⟨hstamp hcreated, hstamp hupdated⟩

/-- A result that is there is not touched by a change of the fault. -/
theorem Checked.ok_of_mapError {α : Type} {result : Checked α} {value : α}
    (h : result.mapError Fault.invalid = .ok value) : result = .ok value := by
  cases result with
  | error faults => cases h
  | ok held => exact congrArg _ (Except.ok.inj h)

/-- A key with checked fields has the name it is given and the text of the given kind. -/
theorem Key.eq_of_ofFields {kind : Value} {name : Text} {key : Key}
    (h : Key.ofFields [("kind", kind), ("name", .text name)] = .ok key) :
    ∃ content, Field.text kind = .ok content ∧ key = ⟨content, name⟩ := by
  have hname : Key.requiredText [("kind", kind), ("name", .text name)] "name" = .ok name := rfl
  have hkind : Key.requiredText [("kind", kind), ("name", .text name)] "kind" =
      Checked.at? ["kind"] (Field.text kind) := rfl
  have hchecked := Checked.ok_of_mapError h
  rw [hname, hkind] at hchecked
  cases htext : Field.text kind with
  | ok content =>
    rw [htext] at hchecked
    exact ⟨content, rfl, (Except.ok.inj hchecked).symm⟩
  | error cause =>
    rw [htext] at hchecked
    cases hchecked

theorem Key.ofFields_text (kind name : Text) :
    Key.ofFields [("kind", .text kind), ("name", .text name)] = .ok ⟨kind, name⟩ := rfl

theorem Blob.key_toRecord {blob : Blob} {key : Uuid} (h : blob.key = some key) :
    blob.toRecord.key = .uuid key := by
  simp [Blob.toRecord, h, Value.ofUuid?]

/-- A record with an identifier as its key is stored under the kind of the store and the text of
the identifier. -/
theorem Record.storageKey_of_key {record : Record} {key : Uuid} (h : record.key = .uuid key)
    (kind : Text) : record.storageKey (.text kind) = .ok ⟨kind, key.text⟩ := by
  rw [Record.storageKey, h]
  exact Key.ofFields_text kind key.text

/-- A record is stored under the kind of the store and the text of its key. -/
theorem Blob.storageKey_toRecord {blob : Blob} {key : Uuid} (h : blob.key = some key)
    (kind : Text) : blob.toRecord.storageKey (.text kind) = .ok ⟨kind, key.text⟩ :=
  Record.storageKey_of_key (Blob.key_toRecord h) kind

/-- The integers of 64 bits. -/
theorem Cell.fits_iff {number : Int} :
    Cell.fits number = true ↔ -Cell.limit ≤ number ∧ number < Cell.limit := by
  simp [Cell.fits]

/-- The sizes that are integers of 64 bits. -/
theorem Cell.fits_natCast_iff {size : Nat} : Cell.fits size = true ↔ size < Nat.pow 2 63 := by
  have hlimit : Cell.limit = (Nat.pow 2 63 : Nat) := rfl
  constructor
  · intro hfits
    obtain ⟨-, hbound⟩ := Cell.fits_iff.1 hfits
    omega
  · intro hsize
    exact Cell.fits_iff.2 ⟨by omega, by omega⟩

theorem Status.code_le (status : Status) : status.code ≤ 4 := by
  cases status <;> decide

theorem Status.fits_code (status : Status) : Cell.fits status.code = true := by
  have hcode := status.code_le
  have hlimit : Cell.limit = 9223372036854775808 := rfl
  exact Cell.fits_iff.2 ⟨by omega, by omega⟩

theorem Cell.ofText?_ofUuid? (signature : Option Uuid) :
    Cell.ofText? (signature.map fun id => .ofString id.text) =
      .ok (Cell.ofString? (signature.map Uuid.text)) := by
  cases signature with
  | none => rfl
  | some id => exact Cell.ofText_ofString id.text

/-- A record whose size fits a column and whose texts are strings is stored as its row; a larger
size is refused, and so is another text. -/
theorem Row.ofContent_content (kind : String) (key : Uuid) (blob : Blob) :
    Row.ofContent ⟨kind, key.text⟩ blob.content =
      if Cell.fits blob.size then
        if blob.IsEncodable then .ok (Row.ofBlob kind key blob) else .error .unencodable
      else .error .outOfRange := by
  have hsize : Cell.ofValue (.integer blob.size) =
      if Cell.fits blob.size then .ok (.integer blob.size) else .error .outOfRange := rfl
  have hstatus : Cell.ofInteger blob.status.code = .ok (.integer blob.status.code) :=
    if_pos blob.status.fits_code
  have htext : ∀ content : Text, Cell.ofValue (.text content) = Cell.ofText content :=
    fun _ => rfl
  by_cases hfits : Cell.fits blob.size = true
  · rw [if_pos hfits] at hsize ⊢
    simp only [Row.ofContent, Blob.content, hsize, hstatus, htext, Cell.ofText_ofString,
      Cell.ofText?_ofUuid?]
    by_cases hstore : blob.storeKey.IsString
    · by_cases hrecord : blob.recordKey.IsString
      · rw [if_pos ⟨hstore, hrecord⟩, Cell.ofText_of_isString hstore,
          Cell.ofText_of_isString hrecord]
        rfl
      · rw [if_neg fun h => hrecord h.2, Cell.ofText_of_isString hstore,
          Cell.ofText_of_not_isString hrecord]
        rfl
    · rw [if_neg fun h => hstore h.1, Cell.ofText_of_not_isString hstore]
      rfl
  · rw [if_neg hfits] at hsize ⊢
    simp only [Row.ofContent, Blob.content, hsize, Cell.ofText_ofString]
    rfl

/-- The columns keep the row of a record as it is, whatever its texts look like. -/
theorem Row.stored_ofBlob (kind : String) (key : Uuid) (blob : Blob) :
    (Row.ofBlob kind key blob).stored = Row.ofBlob kind key blob := by
  simp [Row.stored, Row.ofBlob, Row.timeCell]

theorem Row.isComplete_ofBlob (kind : String) (key : Uuid) (blob : Blob) :
    (Row.ofBlob kind key blob).isComplete = true := rfl

/-- The row of a record is at its own kind and key only. -/
theorem Row.isAt_ofBlob {kind otherKind : String} {key otherKey : Uuid} {blob : Blob} :
    (Row.ofBlob kind key blob).isAt (.text otherKind) (.text otherKey.text) = true ↔
      kind = otherKind ∧ key = otherKey := by
  simp [Row.isAt_iff, Row.ofBlob]

/-! ## Times that are read -/

namespace Calendar.DateTime

/-- The time that the text of a time is read as. -/
def recorded (time : DateTime) : DateTime := time.toPlainTime.recorded

@[simp] theorem isAware_recorded (time : DateTime) : time.recorded.isAware = time.isAware :=
  Option.isSome_map

/-- A time is read with a fixed offset, which is its own unless that is less than a second. -/
theorem recorded_eq {time : DateTime} (h : time.KeepsOffset) : time.recorded = time.fixed :=
  congrArg (fun plain : PlainTime => (plain : DateTime)) (PlainTime.recorded_eq h)

/-- A time in no zone whose offset has at least a second is read as it is. -/
theorem recorded_eq_self {time : DateTime} (hzone : time.zone = none) (h : time.KeepsOffset) :
    time.recorded = time := by
  rw [recorded_eq h]
  obtain ⟨plain, zone⟩ := time
  obtain rfl : zone = none := hzone
  rfl

@[simp] theorem recorded_recorded (time : DateTime) : time.recorded.recorded = time.recorded :=
  recorded_eq (PlainTime.keepsOffset_recorded time.toPlainTime)

end Calendar.DateTime

/-- Stamps with their times as they are read. -/
def Stamps.recorded (stamps : Stamps) : Stamps :=
  { stamps with
    createdAt := stamps.createdAt.map DateTime.recorded
    updatedAt := stamps.updatedAt.map DateTime.recorded }

theorem Stamps.AreAware.recorded {stamps : Stamps} (h : stamps.AreAware) :
    stamps.recorded.AreAware := by
  have haware : ∀ time : Option DateTime, (∀ value ∈ time, value.isAware = true) →
      ∀ value ∈ time.map DateTime.recorded, value.isAware = true := by
    rintro time hheld _ hread
    obtain ⟨value, hvalue, rfl⟩ := Option.map_eq_some_iff.1 hread
    exact (DateTime.isAware_recorded value).trans (hheld value hvalue)
  exact ⟨haware _ h.1, haware _ h.2⟩

/-- Stamps with fixed offsets. -/
def Stamps.fixed (stamps : Stamps) : Stamps :=
  { stamps with
    createdAt := stamps.createdAt.map DateTime.fixed
    updatedAt := stamps.updatedAt.map DateTime.fixed }

/-- The offsets of the times are zero or at least a second. -/
def Stamps.KeepOffsets (stamps : Stamps) : Prop :=
  (∀ time ∈ stamps.createdAt, time.KeepsOffset) ∧ ∀ time ∈ stamps.updatedAt, time.KeepsOffset

/-- Offsets of at least a second are read as they are. -/
theorem Stamps.recorded_eq {stamps : Stamps} (h : stamps.KeepOffsets) :
    stamps.recorded = stamps.fixed := by
  have hcreated := Option.map_congr fun time htime => DateTime.recorded_eq (h.1 time htime)
  have hupdated := Option.map_congr fun time htime => DateTime.recorded_eq (h.2 time htime)
  rw [recorded, fixed, hcreated, hupdated]

/-- The times of a record are read as they are. -/
def Stamps.AreRecorded (stamps : Stamps) : Prop :=
  (∀ time ∈ stamps.createdAt, time.recorded = time) ∧
    ∀ time ∈ stamps.updatedAt, time.recorded = time

theorem Stamps.AreRecorded.recorded_eq {stamps : Stamps} (h : stamps.AreRecorded) :
    stamps.recorded = stamps := by
  have hsame : ∀ time : Option DateTime, (∀ value ∈ time, value.recorded = value) →
      time.map DateTime.recorded = time := fun time hheld => by
    rw [Option.map_congr hheld, Option.map_id']
  rw [Stamps.recorded, hsame _ h.1, hsame _ h.2]

theorem Stamps.AreRecorded.settle {stamps : Stamps} (h : stamps.AreRecorded) :
    stamps.settle.AreRecorded := ⟨h.1, Stamps.forall_settle h.1 h.2⟩

/-- A record with its times as they are read. -/
def Blob.recorded (blob : Blob) : Blob := { blob with stamps := blob.stamps.recorded }

/-! ## Reading a row -/

@[simp] theorem Cell.isGarbled_ofString? (content : Option String) :
    (Cell.ofString? content).isGarbled = false := by
  cases content <;> rfl

@[simp] theorem Row.isGarbled_ofBlob (kind : String) (key : Uuid) (blob : Blob) :
    (Row.ofBlob kind key blob).isGarbled = false := by
  simp [Row.isGarbled, Row.cells, Row.ofBlob, Row.timeCell]

/-- A row that is read has values that make up the record. -/
theorem Row.readValues_of_toBlob {row : Row} {blob : Blob} (h : row.toBlob = .ok blob) :
    row.readValues = .ok blob := by
  unfold Row.toBlob at h
  split at h
  · cases h
  · exact h

theorem Row.readTime_timeCell (time : Option DateTime) :
    Row.readTime (Row.timeCell time) = .ok (.ofTime? (time.map DateTime.recorded)) := by
  cases time with
  | none => rfl
  | some value =>
    simp [Row.timeCell, Cell.ofString?, Row.readTime, Calendar.readTime?_isoText, Value.ofTime?,
      DateTime.recorded]

theorem Cell.toValue_ofString? (content : Option String) :
    (Cell.ofString? content).toValue = Value.ofText? (content.map Text.ofString) := by
  cases content <;> rfl

/-- The row of a record whose texts are strings holds the property list of the record, its times as
they are read. -/
theorem Row.properties_ofBlob (kind : String) (key : Uuid) {blob : Blob}
    (h : blob.IsEncodable) :
    (Row.ofBlob kind key blob).properties = .ok blob.recorded.content.toProperties := by
  have hstore : (Cell.text blob.storeKey.string).toValue = .text blob.storeKey :=
    congrArg Value.text (Text.isString_iff.1 h.1).symm
  have hrecord : (Cell.text blob.recordKey.string).toValue = .text blob.recordKey :=
    congrArg Value.text (Text.isString_iff.1 h.2).symm
  simp only [Row.properties, Row.ofBlob, Row.readTime_timeCell, Cell.toValue_ofString?,
    Option.map_map, hstore, hrecord]
  rfl

theorem readStamp_ofTime? (name : String) {time : Option DateTime}
    (h : ∀ value ∈ time, value.isAware = true) : readStamp name (.ofTime? time) = .ok time := by
  cases time with
  | none => rfl
  | some value => simp [Value.ofTime?, readStamp, h value rfl]

theorem readSignature_ofText? (name : String) (signature : Option Uuid) :
    readSignature name (.ofText? (signature.map fun id => .ofString id.text)) = .ok signature := by
  cases signature with
  | none => rfl
  | some value => simp [Value.ofText?, readSignature, Uuid.ofText?_text]

/-- Written stamps are read as those stamps, settled, with the signature that its text stands
for. -/
theorem Stamps.ofProperties_signed (outer : String) {blob : Blob} (h : blob.stamps.AreAware)
    (signature : Option Text) :
    Stamps.ofProperties outer (blob.contentSigned signature).stampProperties =
      (readSignature (innerName outer signatureName) (.ofText? signature)).map fun signature =>
        { blob.stamps with signature }.settle := by
  have hupdated : updatedAtName ≠ createdAtName := by decide
  have hsignature : signatureName ≠ createdAtName ∧ signatureName ≠ updatedAtName := by decide
  simp only [Stamps.ofProperties, Content.stampProperties, Blob.contentSigned, Blob.content,
    Stamps.readProperty, hupdated, hsignature, readStamp_ofTime? _ h.1, readStamp_ofTime? _ h.2,
    List.foldlM_cons, List.foldlM_nil, Except.map, bind, Except.bind, pure, Except.pure, if_true,
    if_false]
  cases readSignature (innerName outer signatureName) (.ofText? signature) <;> rfl

/-- The property list of a record is read as that record under the given key, its stamps settled,
with the signature that its text stands for. -/
theorem Blob.ofItems_signed {blob : Blob} (h : blob.stamps.AreAware) (signature : Option Text)
    (key : Option Uuid) :
    Blob.ofItems (blob.contentSigned signature).toProperties (.ofUuid? key) =
      match readSignature (innerName timestampsName signatureName) (.ofText? signature) with
      | .ok signature => .ok { blob with key, stamps := { blob.stamps with signature }.settle }
      | .error cause => .error (.ofMalformation cause) := by
  have hstatus : statusName ≠ sizeName := by decide
  have hstore : storeKeyName ≠ sizeName ∧ storeKeyName ≠ statusName := by decide
  have hrecord : recordKeyName ≠ sizeName ∧ recordKeyName ≠ statusName ∧
      recordKeyName ≠ storeKeyName := by decide
  have hstamps : timestampsName ≠ sizeName ∧ timestampsName ≠ statusName ∧
      timestampsName ≠ storeKeyName ∧ timestampsName ≠ recordKeyName := by decide
  have hnonneg : ¬(blob.size : Int) < 0 := by omega
  have hread := Stamps.ofProperties_signed timestampsName h signature
  have hkey : Checked.at? ["key"] (Field.identifier (.ofUuid? key)) = .ok key := by
    cases key <;> rfl
  have hfields : (blob.contentSigned signature).size = .integer blob.size ∧
      (blob.contentSigned signature).status = blob.status.code ∧
      (blob.contentSigned signature).storeKey = .text blob.storeKey ∧
      (blob.contentSigned signature).recordKey = .text blob.recordKey :=
    ⟨rfl, rfl, rfl, rfl⟩
  -- The five properties are read in the order in which they are written.
  have hfold : (blob.contentSigned signature).toProperties.foldlM Blob.readProperty Blob.empty =
      (readSignature (innerName timestampsName signatureName) (.ofText? signature)).map
        fun signature =>
          { blob with key := none, stamps := { blob.stamps with signature }.settle } := by
    simp [Content.toProperties, Blob.readProperty, hstatus, hstore, hrecord, hstamps, readStamps,
      hread, hfields, readSize, readStatus, readText, readInteger, hnonneg, Status.ofCode?_code,
      Except.map, bind, Except.bind, pure, Except.pure]
    cases readSignature (innerName timestampsName signatureName) (.ofText? signature) <;> rfl
  simp only [Blob.ofItems, hfold]
  cases readSignature (innerName timestampsName signatureName) (.ofText? signature) with
  | error cause => rfl
  | ok signature => simp only [Except.map, hkey]

/-- The property list of a record is read as that record, its stamps settled, under the given
key. -/
theorem Blob.ofItems_toProperties {blob : Blob} (h : blob.stamps.AreAware) (key : Option Uuid) :
    Blob.ofItems blob.content.toProperties (.ofUuid? key) =
      .ok { blob with key := key, stamps := blob.stamps.settle } := by
  have hread := Blob.ofItems_signed h (blob.stamps.signature.map fun id => .ofString id.text) key
  rw [readSignature_ofText?] at hread
  exact hread

/-- **The row of a record whose texts are strings is read as that record**, its times as they are
read and settled. -/
theorem Row.toBlob_ofBlob (kind : String) (key : Uuid) {blob : Blob}
    (h : blob.stamps.AreAware) (hencodable : blob.IsEncodable) :
    (Row.ofBlob kind key blob).toBlob =
      .ok { blob with key := some key, stamps := blob.stamps.recorded.settle } := by
  have hkey : Key.identifier ⟨kind, key.text⟩ = .ok key := by
    simp [Key.identifier, Key.identifierOf, Uuid.ofText?_text]
  have hname : Key.ofFields [("kind", (Row.ofBlob kind key blob).kind.toValue),
      ("name", (Row.ofBlob kind key blob).name.toValue)] = .ok ⟨kind, key.text⟩ :=
    Key.ofFields_text kind key.text
  have hrecorded : blob.recorded.stamps.AreAware := h.recorded
  have hread := Blob.ofItems_toProperties hrecorded (some key)
  rw [Row.toBlob, if_neg (by simp)]
  simp only [Row.readValues, hname, hkey, Row.properties_ofBlob kind key hencodable, bind,
    Except.bind]
  exact hread

/-! ## The row under a key -/

namespace Table

/-- The row stored under a kind and a key. -/
def rowOf (table : Table) (kind : String) (key : Uuid) : Option Row :=
  table.find? (.text kind) (.text key.text)

theorem rowOf_eq_none_iff {table : Table} {kind : String} {key : Uuid} :
    table.rowOf kind key = none ↔
      ∀ row ∈ table.rows, ¬(row.kind = .text kind ∧ row.name = .text key.text) := by
  simp only [rowOf, find?_eq_none_iff, Cell.asText_text, ← Bool.not_eq_true, Row.isAt_iff]
  simp

/-- After a record is added, its row is found under its kind and key and every other look-up is as
before. -/
theorem rowOf_inserted {table changed : Table} {kind : String} {key : Uuid} {blob : Blob}
    (h : table.insert? (Row.ofBlob kind key blob) = some changed) (otherKind : String)
    (other : Uuid) :
    changed.rowOf otherKind other =
      if kind = otherKind ∧ key = other then some (Row.ofBlob kind key blob)
      else table.rowOf otherKind other := by
  rw [rowOf,
    find?_insert? (Row.stored_ofBlob kind key blob) (Row.isComplete_ofBlob kind key blob) h]
  simp only [Cell.asText_text, Row.isAt_ofBlob]
  rfl

theorem rowOf_insert? {table changed : Table} {kind : String} {key : Uuid} {blob : Blob}
    (h : table.insert? (Row.ofBlob kind key blob) = some changed) (other : Uuid) :
    changed.rowOf kind other =
      if key = other then some (Row.ofBlob kind key blob) else table.rowOf kind other := by
  rw [rowOf_inserted h]
  simp

/-- After a record is removed, its kind and key have no row and every other look-up is as before. -/
theorem rowOf_erased (table : Table) (kind otherKind : String) (key other : Uuid) :
    (table.erase (.text kind) (.text key.text)).rowOf otherKind other =
      if kind = otherKind ∧ key = other then none else table.rowOf otherKind other := by
  rw [rowOf, find?_erase]
  simp [rowOf]

theorem rowOf_erase (table : Table) (kind : String) (key other : Uuid) :
    (table.erase (.text kind) (.text key.text)).rowOf kind other =
      if key = other then none else table.rowOf kind other := by
  rw [rowOf_erased]
  simp

/-- In a keyed table an update of the row under a kind and a key changes that row and no other. -/
theorem rowOf_updated {table changed : Table} {kind : String} {key : Uuid} {signature : Cell}
    {change : Change} (hkeyed : table.IsKeyed)
    (h : table.update? (.text kind) (.text key.text) signature change = some changed)
    (otherKind : String) (other : Uuid) :
    changed.rowOf otherKind other =
      if kind = otherKind ∧ key = other then (table.rowOf kind key).map change.apply
      else table.rowOf otherKind other := by
  rw [rowOf, find?_update? h]
  by_cases hother : kind = otherKind ∧ key = other
  · obtain ⟨rfl, rfl⟩ := hother
    have hsome : (table.update? (.text kind) (.text key.text) signature change).isSome = true := by
      rw [h]
      rfl
    obtain ⟨row, hfound, hsignature⟩ := hkeyed.update?_isSome_iff.1 hsome
    have hexpected : isExpected (.text kind) (.text key.text) signature row = true := by
      simpa [isExpected, hsignature] using isAt_of_find? hfound
    simp [rowOf, hfound, hexpected]
  · -- A row found under another kind or key is not the expected one.
    rw [if_neg hother]
    cases hfound : table.find? (.text otherKind) (.text other.text) with
    | none => simp [rowOf, hfound]
    | some row =>
      have hat := isAt_of_find? hfound
      have hexpected : isExpected (.text kind) (.text key.text) signature row = false := by
        refine Bool.eq_false_iff.2 fun hexpected => hother ?_
        obtain ⟨-, hkind, hname⟩ := Row.isAt_iff.1 hat
        obtain ⟨-, hkind', hname'⟩ := Row.isAt_iff.1 (Bool.and_eq_true_iff.1 hexpected).1
        exact ⟨by simpa using hkind'.symm.trans hkind, by simpa using hname'.symm.trans hname⟩
      simp [rowOf, hfound, hexpected]

/-- A row found under a kind and a key is a row of the table at that place. -/
theorem mem_of_rowOf {table : Table} {kind : String} {key : Uuid} {row : Row}
    (h : table.rowOf kind key = some row) :
    row ∈ table.rows ∧ row.kind = .text kind ∧ row.name = .text key.text := by
  obtain ⟨-, hkind, hname⟩ := Row.isAt_iff.1 (isAt_of_find? h)
  exact ⟨mem_of_find? h, hkind, hname⟩

end Table

end BlobCatalog
