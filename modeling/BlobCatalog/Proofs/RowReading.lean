import BlobCatalog.Proofs.PropertyReading
import BlobCatalog.Proofs.TypedLifecycle

/-!
# What a row is read as

The cells of a row may hold whatever the columns admit, whoever wrote them. `Row.Holds` says which
record they hold: the times and the signature stand there in any text that is read as them.
`Row.toBlob_eq_ok_iff` states that this record is what the row is read as, its stamps settled, and
that no other row can be read.

A row that cannot be read is to be reported as such, by its name or as malformed
(`Store.IsReported`). The columns are decoded before anything is made of them, and the two time
columns are turned into times before anything else of a named row is checked.
`Store.fetch_isReported_iff` states that nothing else can go wrong: a fetched row is reported unless
one of its columns is garbled, or a time column of a named row holds something else than nothing or
the text of a time.
-/

namespace BlobCatalog

open Calendar (DateTime)

/-! ## Cells -/

/-- The time that a text names, at a fixed offset. -/
def Calendar.DateTime.ofText? (content : String) : Option DateTime :=
  (readTime? content).map fun time => time

namespace Cell

variable {α : Type} {cell : Cell} {read : String → Option α} {value : Option α}

/-- The cell holds nothing, or a text that is read as the given value. -/
def IsTextOf (read : String → Option α) : Option α → Cell → Prop
  | none, cell => cell = .null
  | some value, cell => ∃ content, cell = .text content ∧ read content = some value

/-- The cell holds nothing, or the text of a time. -/
def IsTime (cell : Cell) : Prop := ∃ time, cell.IsTextOf DateTime.ofText? time

@[simp] theorem isTextOf_null : null.IsTextOf read value ↔ value = none := by
  cases value <;> simp [IsTextOf]

@[simp] theorem isTextOf_text {content : String} :
    (text content).IsTextOf read value ↔ ∃ held, value = some held ∧ read content = some held := by
  cases value <;> simp [IsTextOf]

@[simp] theorem not_isTextOf_integer {number : Int} : ¬(integer number).IsTextOf read value := by
  cases value <;> simp [IsTextOf]

@[simp] theorem not_isTextOf_real {number : Float} : ¬(real number).IsTextOf read value := by
  cases value <;> simp [IsTextOf]

@[simp] theorem not_isTextOf_garbled {content : GarbledText} :
    ¬(garbled content).IsTextOf read value := by
  cases value <;> simp [IsTextOf]

@[simp] theorem not_isTextOf_blob {content : List UInt8} :
    ¬(blob content).IsTextOf read value := by
  cases value <;> simp [IsTextOf]

/-- A cell is a text of one value only. -/
theorem IsTextOf.unique {left right : Option α} (hleft : cell.IsTextOf read left)
    (hright : cell.IsTextOf read right) : left = right := by
  cases cell with
  | null => rw [isTextOf_null.1 hleft, isTextOf_null.1 hright]
  | text content =>
    obtain ⟨held, rfl, hheld⟩ := isTextOf_text.1 hleft
    obtain ⟨other, rfl, hother⟩ := isTextOf_text.1 hright
    exact hheld.symm.trans hother
  | integer number => exact absurd hleft not_isTextOf_integer
  | real number => exact absurd hleft not_isTextOf_real
  | garbled content => exact absurd hleft not_isTextOf_garbled
  | blob content => exact absurd hleft not_isTextOf_blob

/-- The cell of a value is not garbled. -/
theorem IsTextOf.isGarbled_eq (h : cell.IsTextOf read value) : cell.isGarbled = false := by
  cases cell with
  | garbled content => exact absurd h not_isTextOf_garbled
  | _ => rfl

/-- The cell of a time is a text of the time that it is read as. -/
theorem isTextOf_timeCell (time : Option DateTime) :
    (Row.timeCell time).IsTextOf DateTime.ofText? (time.map DateTime.recorded) := by
  cases time with
  | none => rfl
  | some value =>
    exact ⟨value.isoText, rfl, by simp [DateTime.ofText?, Calendar.readTime?_isoText,
      DateTime.recorded]⟩

theorem isTextOf_text? (id : Option Uuid) :
    (ofString? (id.map Uuid.text)).IsTextOf (fun content => Uuid.ofText? content) id := by
  cases id with
  | none => rfl
  | some held => exact ⟨held.text, rfl, Uuid.ofText?_text held⟩

theorem isInteger_toValue_iff {number : Int} :
    cell.toValue.IsInteger number ↔ cell = .integer number := by
  cases cell <;> simp [toValue, Value.IsInteger]

/-- Only strings are kept as text. -/
theorem toValue_eq_text_iff {content : Text} :
    cell.toValue = .text content ↔ content.IsString ∧ cell = .text content.string := by
  cases cell with
  | text held =>
    simp only [toValue, Value.text.injEq, text.injEq]
    constructor
    · rintro rfl
      exact ⟨Text.isString_ofString held, (Text.string_ofString held).symm⟩
    · rintro ⟨hstring, rfl⟩
      exact (Text.isString_iff.1 hstring).symm
  | _ => simp [toValue]

/-- The cell of a signature is read as the identifier that its text stands for. -/
theorem readSignature_toValue_iff {name : String} {id : Option Uuid} :
    readSignature name cell.toValue = .ok id ↔
      cell.IsTextOf (fun content => Uuid.ofText? content) id := by
  rw [readSignature_eq_ok_iff]
  cases cell <;> cases id <;> simp [toValue, Value.ofUuid?]

/-- The cell of a time is read as the time that its text names. -/
theorem readTime_eq_ok_iff {value : Value} :
    Row.readTime cell = .ok value ↔
      ∃ time, cell.IsTextOf DateTime.ofText? time ∧ value = .ofTime? time := by
  cases cell with
  | null => simp [Row.readTime, Value.ofTime?, eq_comm]
  | text content =>
    cases hread : Calendar.readTime? content <;>
      simp [Row.readTime, DateTime.ofText?, hread, Value.ofTime?, eq_comm]
  | _ => simp [Row.readTime]

/-- A cell that holds no time is refused for its text, or because it has none. -/
theorem fault_of_readTime {fault : Fault} (h : Row.readTime cell = .error fault) :
    fault = .unreadable ∨ fault = .wrongKind := by
  cases cell with
  | null => cases h
  | text content =>
    simp only [Row.readTime] at h
    split at h
    · cases h
    · cases h
      exact .inl rfl
  | _ =>
    cases h
    exact .inr rfl

end Cell

theorem Value.ofTime?_injective : Function.Injective Value.ofTime? := by
  intro left right h
  cases left <;> cases right <;> simp_all [Value.ofTime?]

/-! ## Rows -/

/-- The cells of a row hold the fields of a record that is read from it under a key. The two texts
and the two numbers stand there as they are. -/
structure Row.Holds (row : Row) (key : Uuid) (blob : Blob) : Prop where
  key_eq : blob.key = some key
  size_eq : row.size = .integer blob.size
  status_eq : row.status = .integer blob.status.code
  encodable : blob.IsEncodable
  storeKey_eq : row.storeKey = .text blob.storeKey.string
  recordKey_eq : row.recordKey = .text blob.recordKey.string
  createdAt : row.createdAt.IsTextOf DateTime.ofText? blob.stamps.createdAt
  updatedAt : row.updatedAt.IsTextOf DateTime.ofText? blob.stamps.updatedAt
  signature : row.signature.IsTextOf (fun content => Uuid.ofText? content) blob.stamps.signature
  aware : blob.stamps.AreAware

/-- No column of a row that holds a record is garbled. -/
theorem Row.Holds.isGarbled_eq {row : Row} {key : Uuid} {blob : Blob} {kind name : String}
    (h : row.Holds key blob) (hkind : row.kind = .text kind) (hname : row.name = .text name) :
    row.isGarbled = false := by
  simp [Row.isGarbled, Row.cells, hkind, hname, h.size_eq, h.status_eq, h.storeKey_eq,
    h.recordKey_eq, h.createdAt.isGarbled_eq, h.updatedAt.isGarbled_eq, h.signature.isGarbled_eq]

/-- A row holds one record only under a key. -/
theorem Row.Holds.unique {row : Row} {key : Uuid} {left right : Blob} (hleft : row.Holds key left)
    (hright : row.Holds key right) : left = right := by
  have hsize : left.size = right.size :=
    Int.ofNat.inj (Cell.integer.inj (hleft.size_eq.symm.trans hright.size_eq))
  have hstatus : left.status = right.status := Status.code_injective
    (Int.ofNat.inj (Cell.integer.inj (hleft.status_eq.symm.trans hright.status_eq)))
  have hsame : ∀ {left right : Text}, left.IsString → right.IsString →
      left.string = right.string → left = right := fun hleft hright h => by
    rw [Text.isString_iff.1 hleft, Text.isString_iff.1 hright, h]
  have hstoreKey := hsame hleft.encodable.1 hright.encodable.1
    (Cell.text.inj (hleft.storeKey_eq.symm.trans hright.storeKey_eq))
  have hrecordKey := hsame hleft.encodable.2 hright.encodable.2
    (Cell.text.inj (hleft.recordKey_eq.symm.trans hright.recordKey_eq))
  have hstamps : left.stamps = right.stamps := by
    rw [Stamps.mk.injEq]
    exact ⟨hleft.createdAt.unique hright.createdAt, hleft.updatedAt.unique hright.updatedAt,
      hleft.signature.unique hright.signature⟩
  rw [Blob.mk.injEq]
  exact ⟨hleft.key_eq.trans hright.key_eq.symm, hsize, hstatus, hstoreKey, hrecordKey, hstamps⟩

namespace Row

variable {row : Row} {kind content : String} {key : Uuid} {blob : Blob}
  {createdAt updatedAt : Option DateTime}

/-- The row of a typed record whose texts are strings holds that record, its times as they are
read. -/
theorem holds_ofBlob (kind : String) (hkey : blob.key = some key) (h : blob.stamps.AreAware)
    (hencodable : blob.IsEncodable) : (ofBlob kind key blob).Holds key blob.recorded where
  key_eq := hkey
  size_eq := rfl
  status_eq := rfl
  encodable := hencodable
  storeKey_eq := rfl
  recordKey_eq := rfl
  createdAt := Cell.isTextOf_timeCell _
  updatedAt := Cell.isTextOf_timeCell _
  signature := Cell.isTextOf_text? _
  aware := h.recorded

/-- The property list of the time stamps of a row with the given times. -/
def stampItems (row : Row) (createdAt updatedAt : Option DateTime) : List Value :=
  [.property createdAtName (.ofTime? createdAt), .property updatedAtName (.ofTime? updatedAt),
    .property signatureName row.signature.toValue]

/-- The property list of a row with the given times. -/
def items (row : Row) (createdAt updatedAt : Option DateTime) : List Value :=
  [.property sizeName row.size.toValue, .property statusName row.status.toValue,
    .property storeKeyName row.storeKey.toValue, .property recordKeyName row.recordKey.toValue,
    .property timestampsName (.list (row.stampItems createdAt updatedAt))]

/-- A row has a property list if both of its times can be read, and is refused for the first that
cannot. -/
theorem properties_cases (row : Row) :
    (∃ createdAt updatedAt, row.createdAt.IsTextOf DateTime.ofText? createdAt ∧
      row.updatedAt.IsTextOf DateTime.ofText? updatedAt ∧
      row.properties = .ok (row.items createdAt updatedAt)) ∨
    ∃ fault, row.properties = .error fault ∧ (fault = .unreadable ∨ fault = .wrongKind) ∧
      ¬(row.createdAt.IsTime ∧ row.updatedAt.IsTime) := by
  cases hcreated : readTime row.createdAt with
  | error fault =>
    refine .inr ⟨fault, by simp [properties, hcreated, bind, Except.bind],
      Cell.fault_of_readTime hcreated, ?_⟩
    rintro ⟨⟨time, htime⟩, -⟩
    rw [Cell.readTime_eq_ok_iff.2 ⟨time, htime, rfl⟩] at hcreated
    cases hcreated
  | ok created =>
    cases hupdated : readTime row.updatedAt with
    | error fault =>
      refine .inr ⟨fault, by simp [properties, hcreated, hupdated, bind, Except.bind],
        Cell.fault_of_readTime hupdated, ?_⟩
      rintro ⟨-, time, htime⟩
      rw [Cell.readTime_eq_ok_iff.2 ⟨time, htime, rfl⟩] at hupdated
      cases hupdated
    | ok updated =>
      obtain ⟨createdAt, hcreatedAt, rfl⟩ := Cell.readTime_eq_ok_iff.1 hcreated
      obtain ⟨updatedAt, hupdatedAt, rfl⟩ := Cell.readTime_eq_ok_iff.1 hupdated
      refine .inl ⟨createdAt, updatedAt, hcreatedAt, hupdatedAt, ?_⟩
      simp only [properties, hcreated, hupdated, bind, Except.bind]
      rfl

/-- The time stamps of a row are read column by column, and then settled. -/
theorem readStamps_stampItems_iff {stamps : Stamps} :
    readStamps timestampsName (.list (row.stampItems createdAt updatedAt)) = .ok stamps ↔
      ∃ signature, row.signature.IsTextOf (fun content => Uuid.ofText? content) signature ∧
        (⟨createdAt, updatedAt, signature⟩ : Stamps).AreAware ∧
        stamps = (⟨createdAt, updatedAt, signature⟩ : Stamps).settle := by
  rw [readStamps, Stamps.ofProperties_eq_ok_iff]
  constructor
  · -- The last property of each name is the only one, the one of its column.
    rintro ⟨-, ⟨created, updated, signature⟩, hread, rfl⟩
    have hcreated : readStamp _ (.ofTime? createdAt) = .ok created := hread.createdAt
    have hupdated : readStamp _ (.ofTime? updatedAt) = .ok updated := hread.updatedAt
    have hsignature : readSignature _ row.signature.toValue = .ok signature := hread.signature
    obtain ⟨hsameCreated, hcreatedAware⟩ := readStamp_eq_ok_iff.1 hcreated
    obtain ⟨hsameUpdated, hupdatedAware⟩ := readStamp_eq_ok_iff.1 hupdated
    obtain rfl : createdAt = created := Value.ofTime?_injective hsameCreated
    obtain rfl : updatedAt = updated := Value.ofTime?_injective hsameUpdated
    exact ⟨signature, Cell.readSignature_toValue_iff.1 hsignature,
      ⟨hcreatedAware, hupdatedAware⟩, rfl⟩
  · rintro ⟨signature, hcell, haware, rfl⟩
    have hcreated : ∀ name, readStamp name (.ofTime? createdAt) = .ok createdAt :=
      fun _ => readStamp_eq_ok_iff.2 ⟨rfl, haware.1⟩
    have hupdated : ∀ name, readStamp name (.ofTime? updatedAt) = .ok updatedAt :=
      fun _ => readStamp_eq_ok_iff.2 ⟨rfl, haware.2⟩
    have hsignature : ∀ name, readSignature name row.signature.toValue = .ok signature :=
      fun _ => Cell.readSignature_toValue_iff.2 hcell
    refine ⟨?_, ⟨createdAt, updatedAt, signature⟩,
      ⟨hcreated _, hupdated _, hsignature _⟩, rfl⟩
    have hstamp := readStamp_isOk_iff.1 ⟨createdAt, hcreated createdAtName⟩
    have hupdate := readStamp_isOk_iff.1 ⟨updatedAt, hupdated updatedAtName⟩
    have hsign := readSignature_isOk_iff.1 ⟨signature, hsignature signatureName⟩
    simp [stampItems, Value.IsStampItem, hstamp, hupdate, hsign, createdAtName, updatedAtName,
      signatureName]

/-- A row whose times can be read is read as the record that its cells hold, its stamps settled, and
as nothing else. -/
theorem ofItems_items_iff (hcreated : row.createdAt.IsTextOf DateTime.ofText? createdAt)
    (hupdated : row.updatedAt.IsTextOf DateTime.ofText? updatedAt) :
    Blob.ofItems (row.items createdAt updatedAt) (.uuid key) = .ok blob ↔
      ∃ read, row.Holds key read ∧ blob = { read with stamps := read.stamps.settle } := by
  rw [Blob.ofItems_eq_ok_iff]
  constructor
  · -- Each property that was read tells what its cell holds.
    rintro ⟨-, hkey, hread⟩
    have hsize : readSize _ row.size.toValue = .ok blob.size := hread.size
    have hstatus : readStatus _ row.status.toValue = .ok blob.status := hread.status
    have hstore : readText _ row.storeKey.toValue = .ok blob.storeKey := hread.storeKey
    have hrecord : readText _ row.recordKey.toValue = .ok blob.recordKey := hread.recordKey
    have hstamps : readStamps timestampsName (.list (row.stampItems createdAt updatedAt)) =
      .ok blob.stamps := hread.stamps
    obtain ⟨signature, hsignature, haware, hsettled⟩ := readStamps_stampItems_iff.1 hstamps
    obtain ⟨hstoreString, hstoreKey⟩ := Cell.toValue_eq_text_iff.1 (readText_eq_ok_iff.1 hstore)
    obtain ⟨hrecordString, hrecordKey⟩ :=
      Cell.toValue_eq_text_iff.1 (readText_eq_ok_iff.1 hrecord)
    refine ⟨{ blob with stamps := ⟨createdAt, updatedAt, signature⟩ },
      ⟨(Except.ok.inj hkey).symm, ?_, ?_, ⟨hstoreString, hrecordString⟩, hstoreKey, hrecordKey,
        hcreated, hupdated, hsignature, haware⟩, ?_⟩
    · exact Cell.isInteger_toValue_iff.1 (readSize_eq_ok_iff.1 hsize)
    · exact Cell.isInteger_toValue_iff.1 (readStatus_eq_ok_iff.1 hstatus)
    · rw [← hsettled]
  · -- Each cell is read as what it holds, whatever the property is called.
    rintro ⟨read, hholds, rfl⟩
    have hsize : ∀ name, readSize name row.size.toValue = .ok read.size :=
      fun _ => readSize_eq_ok_iff.2 (Cell.isInteger_toValue_iff.2 hholds.size_eq)
    have hstatus : ∀ name, readStatus name row.status.toValue = .ok read.status :=
      fun _ => readStatus_eq_ok_iff.2 (Cell.isInteger_toValue_iff.2 hholds.status_eq)
    have hstore : ∀ name, readText name row.storeKey.toValue = .ok read.storeKey :=
      fun _ => readText_eq_ok_iff.2
        (Cell.toValue_eq_text_iff.2 ⟨hholds.encodable.1, hholds.storeKey_eq⟩)
    have hrecord : ∀ name, readText name row.recordKey.toValue = .ok read.recordKey :=
      fun _ => readText_eq_ok_iff.2
        (Cell.toValue_eq_text_iff.2 ⟨hholds.encodable.2, hholds.recordKey_eq⟩)
    have hstamps : readStamps timestampsName (.list (row.stampItems createdAt updatedAt)) =
        .ok read.stamps.settle := by
      obtain rfl := hcreated.unique hholds.createdAt
      obtain rfl := hupdated.unique hholds.updatedAt
      exact readStamps_stampItems_iff.2 ⟨_, hholds.signature, hholds.aware, rfl⟩
    refine ⟨?_, by rw [hholds.key_eq]; rfl,
      ⟨hsize _, hstatus _, hstore _, hrecord _, hstamps⟩⟩
    have hsizes := readSize_isOk_iff.1 ⟨_, hsize sizeName⟩
    have hstatuses := readStatus_isOk_iff.1 ⟨_, hstatus statusName⟩
    have hstores := readText_isOk_iff.1 ⟨_, hstore storeKeyName⟩
    have hrecords := readText_isOk_iff.1 ⟨_, hrecord recordKeyName⟩
    have hlist := readStamps_isOk_iff.1 ⟨_, hstamps⟩
    simp [items, Value.IsRecordItem, hsizes, hstatuses, hstores, hrecords, hlist, sizeName,
      statusName, storeKeyName, recordKeyName, timestampsName]

/-- A named row is read under the identifier of its name. -/
theorem readValues_of_name (hkind : row.kind = .text kind) (hname : row.name = .text content) :
    row.readValues =
      match Uuid.ofText? content with
      | none => .error (.unreadableKey (.text content))
      | some key => row.properties >>= fun properties => Blob.ofItems properties (.uuid key) := by
  have hplace : Key.ofFields [("kind", row.kind.toValue), ("name", row.name.toValue)] =
      .ok ⟨kind, content⟩ := by
    rw [hkind, hname]
    exact Key.ofFields_text kind content
  simp only [readValues, hplace, bind, Except.bind, Key.identifier, Key.identifierOf]
  cases Uuid.ofText? content <;> rfl

/-- The values of a named row make up the record that its cells hold under the identifier of its
name, with its stamps settled. -/
theorem readValues_eq_ok_iff (hkind : row.kind = .text kind) (hname : row.name = .text content) :
    row.readValues = .ok blob ↔
      ∃ key read, Uuid.ofText? content = some key ∧ row.Holds key read ∧
        blob = { read with stamps := read.stamps.settle } := by
  rw [readValues_of_name hkind hname]
  cases hkey : Uuid.ofText? content with
  | none => simp
  | some key =>
    rcases row.properties_cases with
      ⟨createdAt, updatedAt, hcreated, hupdated, hitems⟩ | ⟨fault, hfault, -, hnot⟩
    · rw [hitems]
      change Blob.ofItems (row.items createdAt updatedAt) (.uuid key) = .ok blob ↔ _
      rw [ofItems_items_iff hcreated hupdated]
      simp
    · rw [hfault]
      constructor
      · intro h
        cases h
      · rintro ⟨_, read, -, hholds, -⟩
        exact absurd ⟨⟨_, hholds.createdAt⟩, _, hholds.updatedAt⟩ hnot

/-- **What a row is read as.** A row is read as the record that its cells hold under the identifier
of its name, with its stamps settled. A row that holds no record cannot be read. -/
theorem toBlob_eq_ok_iff (hkind : row.kind = .text kind) (hname : row.name = .text content) :
    row.toBlob = .ok blob ↔
      ∃ key read, Uuid.ofText? content = some key ∧ row.Holds key read ∧
        blob = { read with stamps := read.stamps.settle } := by
  rw [toBlob]
  split
  · -- A garbled row is not read, and holds no record.
    next hgarbled =>
    refine iff_of_false (by simp) ?_
    rintro ⟨key, read, -, hholds, -⟩
    rw [hholds.isGarbled_eq hkind hname] at hgarbled
    cases hgarbled
  · exact readValues_eq_ok_iff hkind hname

/-- Both time columns hold nothing or the text of a time. -/
def HasTimes (row : Row) : Prop := row.createdAt.IsTime ∧ row.updatedAt.IsTime

/-- The integers of a row have 64 bits, as those of a column have. -/
def HasWords (row : Row) : Prop := ∀ number, .integer number ∈ row.cells → Cell.fits number = true

/-- An integer of 64 bits has a text. -/
theorem isWritable_of_fits {number : Int} (h : Cell.fits number = true) :
    Text.isWritable number = true := by
  refine isWritable_of_lt (Nat.lt_of_le_of_lt ?_ (by decide : 2 ^ 63 < Nat.pow 10 20))
  have hbounds := Cell.fits_iff.1 h
  unfold Cell.limit at hbounds
  omega

/-- So what is wrong with a property of a row can be told. -/
theorem HasWords.not_isLong (h : row.HasWords) {createdAt updatedAt : Option DateTime}
    {item : Value} (hitem : item ∈ row.items createdAt updatedAt) : ¬item.IsLong := by
  -- An integer among the properties is one of the cells, as times and composites are none.
  have hcell : ∀ cell ∈ row.cells, ∀ number, cell.toValue = .integer number →
      Text.isWritable number = true := by
    intro cell hcell number hvalue
    cases cell with
    | integer held =>
      obtain rfl := Value.integer.inj hvalue
      exact isWritable_of_fits (h held hcell)
    | _ => cases hvalue
  rintro ⟨name, number, rfl, hlong, -⟩
  obtain ⟨cell, hmem, heq⟩ : ∃ cell ∈ row.cells, cell.toValue = .integer number := by
    simp only [items, List.mem_cons, Value.property.injEq, List.not_mem_nil, or_false,
      reduceCtorEq, and_false] at hitem
    rcases hitem with ⟨-, heq⟩ | ⟨-, heq⟩ | ⟨-, heq⟩ | ⟨-, heq⟩
    · exact ⟨row.size, by simp [cells], heq.symm⟩
    · exact ⟨row.status, by simp [cells], heq.symm⟩
    · exact ⟨row.storeKey, by simp [cells], heq.symm⟩
    · exact ⟨row.recordKey, by simp [cells], heq.symm⟩
  exact absurd (hcell cell hmem number heq) (by simp [hlong])

/-- A fault of the values of a row is one of its name, one of its contents, or one of a time column
that holds no time. -/
theorem fault_of_readValues {fault : Fault} (hwords : row.HasWords) (hkind : row.kind = .text kind)
    (hname : row.name = .text content) (h : row.readValues = .error fault) :
    (fault = .unreadableKey (.text content) ∧ Uuid.ofText? content = none) ∨
      ((∃ cause, fault = .malformed cause) ∧ (Uuid.ofText? content).isSome = true ∧
        row.HasTimes) ∨
      ((fault = .unreadable ∨ fault = .wrongKind) ∧ (Uuid.ofText? content).isSome = true ∧
        ¬row.HasTimes) := by
  rw [readValues_of_name hkind hname] at h
  cases hkey : Uuid.ofText? content with
  | none =>
    rw [hkey] at h
    exact .inl ⟨(Except.error.inj h).symm, rfl⟩
  | some key =>
    rw [hkey] at h
    rcases row.properties_cases with
      ⟨createdAt, updatedAt, hcreated, hupdated, hitems⟩ | ⟨cause, hcause, hforeign, hnot⟩
    · -- With both times read, only the property list is left to be refused.
      rw [hitems] at h
      change Blob.ofItems (row.items createdAt updatedAt) (.uuid key) = .error fault at h
      refine .inr (.inl ⟨?_, rfl, ⟨createdAt, hcreated⟩, updatedAt, hupdated⟩)
      by_cases hgood : ∀ item ∈ row.items createdAt updatedAt, item.IsRecordItem
      · have hidentifier : Field.identifier (.uuid key) = .ok (some key) := rfl
        obtain ⟨blob, hblob⟩ := Blob.exists_ofItems hgood hidentifier
        rw [hblob] at h
        cases h
      · obtain ⟨cause, hcause, htold⟩ := Blob.ofItems_of_not_isRecordItem hgood (.uuid key)
        have hwritable := htold fun _ hitem => hwords.not_isLong hitem
        rw [Fault.ofMalformation, if_pos hwritable] at hcause
        exact ⟨cause, (Except.error.inj (hcause.symm.trans h)).symm⟩
    · rw [hcause] at h
      obtain rfl : cause = fault := Except.error.inj h
      exact .inr (.inr ⟨hforeign, rfl, hnot⟩)

/-- A fault of reading a row speaks of the row, naming its name or its contents, unless a column is
garbled or a time column of a named row holds no time. -/
theorem fault_of_toBlob {fault : Fault} (hwords : row.HasWords) (hkind : row.kind = .text kind)
    (hname : row.name = .text content) (h : row.toBlob = .error fault) :
    (row.isGarbled = true ∧ fault = .garbled) ∨ row.isGarbled = false ∧
      ((fault = .unreadableKey (.text content) ∧ Uuid.ofText? content = none) ∨
        ((∃ cause, fault = .malformed cause) ∧ (Uuid.ofText? content).isSome = true ∧
          row.HasTimes) ∨
        ((fault = .unreadable ∨ fault = .wrongKind) ∧ (Uuid.ofText? content).isSome = true ∧
          ¬row.HasTimes)) := by
  rw [toBlob] at h
  split at h
  · next hgarbled => exact .inl ⟨hgarbled, (Except.error.inj h).symm⟩
  · next hgarbled =>
    exact .inr ⟨Bool.not_eq_true _ ▸ hgarbled, fault_of_readValues hwords hkind hname h⟩

end Row

/-! ## Fetched rows -/

namespace Store

/-- The outcome of a look-up that a caller can expect of a row: the record of the row, or a fault
that says that its name or its contents cannot be read. -/
def IsReported (outcome : Except Fault (Option Blob)) : Prop :=
  (∃ blob, outcome = .ok (some blob)) ∨ (∃ name, outcome = .error (.unreadableKey name)) ∨
    (∃ cause, outcome = .error (.malformed cause)) ∨ ∃ fields, outcome = .error (.rejected fields)

/-- A store fetches what the row under its kind and the text of a key is read as. -/
theorem fetch_of_mem {store : Store} {table : Table} {row : Row} {kind name : String} {key : Value}
    (hstore : store.kind = .text kind) (hkeyed : table.IsKeyed) (hmem : row ∈ table.rows)
    (hkind : row.kind = .text kind) (hname : row.name = .text name)
    (hkey : key.spelled = .ok name) : store.fetch key table = row.toBlob.map some := by
  have hfound : table.find? (.text kind) (.text name) = some row :=
    hkeyed.find?_of_mem hmem (Row.isAt_iff.2 ⟨by simp, hkind, hname⟩)
  have hbound : Cell.ofValue (.text kind) = .ok (.text kind) := Cell.ofText_ofString kind
  simp only [fetch, hstore, hkey, hbound, Cell.ofText_ofString, bind, Except.bind, hfound]
  cases row.toBlob <;> rfl

/-- A store fetches a record exactly if the cells of the row under its kind and the key hold one,
and then that record with its stamps settled. -/
theorem fetch_eq_some_iff {store : Store} {table : Table} {kind : String} {key : Uuid} {blob : Blob}
    (hstore : store.kind = .text kind) :
    store.fetch (.uuid key) table = .ok (some blob) ↔
      ∃ row read, table.rowOf kind key = some row ∧ row.Holds key read ∧
        blob = { read with stamps := read.stamps.settle } := by
  rw [fetch_uuid hstore]
  cases hfound : table.rowOf kind key with
  | none => simp
  | some row =>
    obtain ⟨-, hkind, hname⟩ := Table.mem_of_rowOf hfound
    have hread : row.toBlob = .ok blob ↔ ∃ read, row.Holds key read ∧
        blob = { read with stamps := read.stamps.settle } := by
      rw [Row.toBlob_eq_ok_iff hkind hname]
      simp [Uuid.ofText?_text]
    have hsome : row.toBlob.map some = .ok (some blob) ↔ row.toBlob = .ok blob := by
      cases row.toBlob <;> simp [Except.map]
    rw [hsome, hread]
    simp

/-- **Rows are reported unless a column is garbled or a time column holds no time.** Let a store
look up a row of its kind, whoever wrote it; its integers have 64 bits. The outcome is the record
that the cells hold, a fault of the name or a fault of the contents, exactly if no column is garbled
and the name is no identifier or both time columns hold nothing or the text of a time. Otherwise the
fault is that of the garbled column, or that of the text or of the kind of a cell, and says nothing
of the row. The name is at fault exactly if no column is garbled and it is no identifier, and a
record is fetched exactly if the cells hold one. -/
theorem fetch_isReported_iff (store : Store) (kind : String) (hstore : store.kind = .text kind)
    (table : Table) (hkeyed : table.IsKeyed) (row : Row) (hmem : row ∈ table.rows)
    (hwords : row.HasWords) (hkind : row.kind = .text kind) (name : String)
    (hname : row.name = .text name) (key : Value) (hkey : key.spelled = .ok name) :
    (IsReported (store.fetch key table) ↔
      row.isGarbled = false ∧ (Uuid.ofText? name = none ∨ row.HasTimes)) ∧
    (¬IsReported (store.fetch key table) →
      (row.isGarbled = true ∧ store.fetch key table = .error .garbled) ∨
        row.isGarbled = false ∧ (store.fetch key table = .error .unreadable ∨
          store.fetch key table = .error .wrongKind)) ∧
    (store.fetch key table = .error (.unreadableKey (.text name)) ↔
      row.isGarbled = false ∧ Uuid.ofText? name = none) ∧
    ∀ blob, store.fetch key table = .ok (some blob) ↔
      ∃ id read, Uuid.ofText? name = some id ∧ row.Holds id read ∧
        blob = { read with stamps := read.stamps.settle } := by
  have hread : ∀ blob, row.toBlob = .ok blob ↔ _ := fun _ => Row.toBlob_eq_ok_iff hkind hname
  rw [fetch_of_mem hstore hkeyed hmem hkind hname hkey]
  cases hrow : row.toBlob with
  | ok blob =>
    -- A record was read, so the name is an identifier and the times are times.
    obtain ⟨id, read, hid, hholds, rfl⟩ := (hread blob).1 hrow
    have hclear := hholds.isGarbled_eq hkind hname
    have htimes : row.HasTimes := ⟨⟨_, hholds.createdAt⟩, _, hholds.updatedAt⟩
    refine ⟨iff_of_true (.inl ⟨_, rfl⟩) ⟨hclear, .inr htimes⟩,
      fun hnot => absurd (.inl ⟨_, rfl⟩) hnot, by simp [Except.map, hid], fun blob => ?_⟩
    rw [← hread, hrow]
    simp [Except.map]
  | error fault =>
    have hnone : ∀ blob, ¬∃ id read, Uuid.ofText? name = some id ∧ row.Holds id read ∧
        blob = { read with stamps := read.stamps.settle } := by
      intro blob hholds
      rw [(hread blob).2 hholds] at hrow
      cases hrow
    have hblobs := fun blob => iff_of_false
      (a := (Except.error fault).map some = .ok (some blob)) (by simp [Except.map]) (hnone blob)
    rcases Row.fault_of_toBlob hwords hkind hname hrow with ⟨hgarbled, rfl⟩ | ⟨hclear,
      ⟨rfl, hunnamed⟩ | ⟨⟨cause, rfl⟩, hnamed, htimes⟩ | ⟨hforeign, hnamed, htimes⟩⟩
    · exact ⟨iff_of_false (by simp [IsReported, Except.map]) (by simp [hgarbled]),
        fun _ => .inl ⟨hgarbled, rfl⟩, iff_of_false (by simp [Except.map]) (by simp [hgarbled]),
        hblobs⟩
    · exact ⟨iff_of_true (.inr (.inl ⟨_, rfl⟩)) ⟨hclear, .inl hunnamed⟩,
        fun hnot => absurd (.inr (.inl ⟨_, rfl⟩)) hnot, iff_of_true rfl ⟨hclear, hunnamed⟩, hblobs⟩
    · have hsome : Uuid.ofText? name ≠ none := Option.isSome_iff_ne_none.1 hnamed
      exact ⟨iff_of_true (.inr (.inr (.inl ⟨cause, rfl⟩))) ⟨hclear, .inr htimes⟩,
        fun hnot => absurd (.inr (.inr (.inl ⟨cause, rfl⟩))) hnot,
        iff_of_false (by simp [Except.map]) fun h => hsome h.2, hblobs⟩
    · have hsome : Uuid.ofText? name ≠ none := Option.isSome_iff_ne_none.1 hnamed
      refine ⟨iff_of_false ?_ ?_, fun _ => ?_, iff_of_false ?_ fun h => hsome h.2, hblobs⟩
      · rcases hforeign with rfl | rfl <;> simp [IsReported, Except.map]
      · rintro ⟨-, hunnamed | hgood⟩
        · exact hsome hunnamed
        · exact htimes hgood
      · rcases hforeign with rfl | rfl
        · exact .inr ⟨hclear, .inl rfl⟩
        · exact .inr ⟨hclear, .inr rfl⟩
      · rcases hforeign with rfl | rfl <;> simp [Except.map]

/-! A row of another tool: its name is an identifier, its creation a time in the basic form, and its
other cells hold what no record has. -/

/-- A row that no store has written. -/
def strayRow : Row where
  kind := .text "blob"
  name := .text sampleKey.text
  size := .text "many"
  status := .integer 42
  storeKey := .blob [0xff]
  recordKey := .text ""
  createdAt := .text "20240229T0304Z"
  updatedAt := .null
  signature := .blob []

theorem hasWords_strayRow : strayRow.HasWords := by
  intro number hnumber
  simp [Row.cells, strayRow] at hnumber
  subst hnumber
  decide

theorem isReported_strayRow :
    Table.empty.insert? strayRow = some ⟨[strayRow]⟩ ∧
      IsReported ((⟨.text "blob"⟩ : Store).fetch (.uuid sampleKey) ⟨[strayRow]⟩) := by
  have hcreated : (DateTime.ofText? "20240229T0304Z").isSome = true := by decide +kernel
  obtain ⟨time, htime⟩ := Option.isSome_iff_exists.1 hcreated
  obtain ⟨hreported, -⟩ := fetch_isReported_iff ⟨.text "blob"⟩ "blob" rfl ⟨[strayRow]⟩
    (List.pairwise_singleton _ _) strayRow List.mem_cons_self hasWords_strayRow rfl
    sampleKey.text rfl (.uuid sampleKey) rfl
  exact ⟨by decide +kernel,
    hreported.2 ⟨by decide, .inr ⟨⟨some time, _, rfl, htime⟩, none, rfl⟩⟩⟩

/-- The time of its creation is a word: the fault is that of the word, and not one of the row. -/
theorem not_isReported_strayRow :
    Table.empty.insert? { strayRow with createdAt := .text "yesterday" } =
        some ⟨[{ strayRow with createdAt := .text "yesterday" }]⟩ ∧
      (⟨.text "blob"⟩ : Store).fetch (.uuid sampleKey)
        ⟨[{ strayRow with createdAt := .text "yesterday" }]⟩ = .error .unreadable ∧
      ¬IsReported ((⟨.text "blob"⟩ : Store).fetch (.uuid sampleKey)
        ⟨[{ strayRow with createdAt := .text "yesterday" }]⟩) := by
  have hfault : (⟨.text "blob"⟩ : Store).fetch (.uuid sampleKey)
      ⟨[{ strayRow with createdAt := .text "yesterday" }]⟩ = .error .unreadable := by
    with_unfolding_all rfl
  refine ⟨by decide +kernel, hfault, ?_⟩
  rw [hfault]
  simp [IsReported]

end Store

end BlobCatalog
