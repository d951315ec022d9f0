import BlobCatalog.Proofs.PropertyReading
import BlobCatalog.Proofs.RecordRun

/-!
# Records whose status was assigned

A record that was built from checked values is typed (`Record.exists_of_ofFields`). Its holder moves
it along the lifecycle and may also assign any number to its status, which nothing checks. So the
record stays typed but for a number as its status (`Record.IsRecoded`), whatever is done to it.

Writing turns the number into a property and reading looks it up among the codes.
`recoded_round_trip` states what comes of that: the times are checked on both sides, the status on
the side of the reader only.
-/

namespace BlobCatalog

open Checked (andAlso at?)

/-! ## Checked records -/

/-- A combined result is there exactly if both parts are. -/
theorem Checked.andAlso_eq_ok_iff {α β : Type} {function : Checked (α → β)} {argument : Checked α}
    {value : β} :
    andAlso function argument = .ok value ↔
      ∃ f a, function = .ok f ∧ argument = .ok a ∧ f a = value := by
  cases function <;> cases argument <;> simp [andAlso]

theorem Checked.ok_of_at? {α : Type} {path : List String} {result : Except FieldCause α} {value : α}
    (h : at? path result = .ok value) : result = .ok value := by
  cases result with
  | error cause => cases h
  | ok held => exact congrArg _ (Except.ok.inj h)

/-- Time stamps that are given as such are typed. -/
def Fields.HasTypedStamps (fields : Fields) : Prop :=
  ∀ given, fields.get? "timestamps" = some given → given.kindName = "Timestamps" →
    ∃ stamps : Stamps, stamps.toValue = given

/-- Checked stamps are typed, unless they were given as untyped stamps. -/
theorem Field.exists_of_stamps {path : List String} {given value : Value}
    (htyped : given.kindName = "Timestamps" → ∃ stamps : Stamps, stamps.toValue = given)
    (h : Field.stamps path given = .ok value) : ∃ stamps : Stamps, stamps.toValue = value := by
  cases given with
  | stamps createdAt updatedAt signature =>
    obtain ⟨stamps, hstamps⟩ := htyped rfl
    exact ⟨stamps, hstamps.trans (Except.ok.inj h)⟩
  | looseStamps createdAt updatedAt signature =>
    obtain ⟨stamps, hstamps⟩ := htyped rfl
    exact ⟨stamps, hstamps.trans (Except.ok.inj h)⟩
  | mapping members =>
    obtain ⟨stamps, -, hstamps⟩ := map_eq_ok_iff.1 h
    exact ⟨stamps, hstamps⟩
  | _ => cases h

namespace Record

/-- A field is the image of a typed value, if the default is and whatever the rule makes of a given
value. -/
theorem exists_of_checkedField {α : Type} {fields : Fields} {name : String} {default value : Value}
    {rule : Value → Except FieldCause Value} {embed : α → Value}
    (h : checkedField fields name default rule = .ok value)
    (hrule : ∀ {given ruled}, rule given = .ok ruled → ∃ typed, embed typed = ruled)
    (hdefault : ∃ typed, embed typed = default) : ∃ typed, embed typed = value := by
  unfold checkedField at h
  split at h
  · exact hrule (Checked.ok_of_at? h)
  · rw [← Except.ok.inj h]
    exact hdefault

/-- **A record with checked fields is typed**, if given stamps are. -/
theorem exists_of_ofFields {fields : Fields} {record : Record} (htyped : fields.HasTypedStamps)
    (h : ofFields fields = .ok record) : ∃ blob, Blob.toRecord blob = record := by
  have hmapped : ∀ {α : Type} {result : Except FieldCause α} {embed : α → Value} {ruled : Value},
      result.map embed = .ok ruled → ∃ typed, embed typed = ruled := by
    intro α result embed ruled hruled
    obtain ⟨typed, -, hembed⟩ := map_eq_ok_iff.1 hruled
    exact ⟨typed, hembed⟩
  have hchecked := Checked.ok_of_mapError h
  rw [checked] at hchecked
  -- The fields are taken off in the reverse of their order.
  obtain ⟨_, stamps, hfive, hstamps, rfl⟩ := Checked.andAlso_eq_ok_iff.1 hchecked
  obtain ⟨_, recordKey, hfour, hrecordKey, rfl⟩ := Checked.andAlso_eq_ok_iff.1 hfive
  obtain ⟨_, storeKey, hthree, hstoreKey, rfl⟩ := Checked.andAlso_eq_ok_iff.1 hfour
  obtain ⟨_, status, htwo, hstatus, rfl⟩ := Checked.andAlso_eq_ok_iff.1 hthree
  obtain ⟨_, size, hone, hsize, rfl⟩ := Checked.andAlso_eq_ok_iff.1 htwo
  obtain ⟨key, hkey, rfl⟩ := map_eq_ok_iff.1 hone
  obtain ⟨key, rfl⟩ := exists_of_checkedField hkey hmapped ⟨none, rfl⟩
  obtain ⟨status, rfl⟩ := exists_of_checkedField hstatus hmapped ⟨.unknown, rfl⟩
  obtain ⟨storeKey, rfl⟩ := exists_of_checkedField hstoreKey hmapped ⟨"", rfl⟩
  obtain ⟨recordKey, rfl⟩ := exists_of_checkedField hrecordKey hmapped ⟨"", rfl⟩
  obtain ⟨size, rfl⟩ : ∃ typed : Nat, Value.integer typed = size := by
    refine exists_of_checkedField hsize ?_ ⟨0, rfl⟩
    intro given ruled hruled
    cases hnumber : Field.size given with
    | error cause =>
      rw [hnumber] at hruled
      cases hruled
    | ok number =>
      rw [hnumber] at hruled
      exact ⟨number, Except.ok.inj hruled⟩
  obtain ⟨stamps, rfl⟩ : ∃ typed : Stamps, typed.toValue = stamps := by
    split at hstamps
    · next given hgiven =>
      exact Field.exists_of_stamps (htyped given hgiven) hstamps
    · exact ⟨.empty, Except.ok.inj hstamps⟩
  exact ⟨⟨key, size, status, storeKey, recordKey, stamps⟩, rfl⟩

end Record

/-! ## Amendments -/

/-- What the holder of a record does to it: a move, or an assignment of a number to the status,
which may be a plain number, a truth value or a status. -/
inductive Amendment where
  | move (target : Status) (now : Value) (supply : Supply)
  | recode (code : Value) (number : Int) (isNumber : code.integer? = some number)

namespace Record

/-- The record after an amendment, or as it is if that was refused. -/
def amended (record : Record) : Amendment → Record
  | .move target now supply => record.orChanged (record.transition target now supply).1
  | .recode code _ _ => record.orChanged (record.assign "status" code)

/-- The record after some amendments. -/
def amendedBy (record : Record) (amendments : List Amendment) : Record :=
  amendments.foldl amended record

/-- The record is typed but for a number as its status. -/
def IsRecoded (number : Int) (blob : Blob) (record : Record) : Prop :=
  ∃ code : Value, code.integer? = some number ∧ record = { blob.toRecord with status := code }

theorem isRecoded_toRecord (blob : Blob) : IsRecoded blob.status.code blob blob.toRecord :=
  ⟨.status blob.status, rfl, rfl⟩

/-- An amended record is typed but for a number as its status. -/
theorem IsRecoded.amended {number : Int} {blob : Blob} {record : Record}
    (h : record.IsRecoded number blob) (amendment : Amendment) :
    ∃ number blob, (record.amended amendment).IsRecoded number blob := by
  obtain ⟨code, hcode, rfl⟩ := h
  cases amendment with
  | recode code number hnumber => exact ⟨number, blob, code, hnumber, rfl⟩
  | move target now supply =>
    rw [Record.amended]
    obtain ⟨after, -, ⟨fault, hmove⟩ | ⟨createdAt, time, updatedAt, -, hcreated, hrefreshed,
      hmove⟩⟩ := transition_cases { blob.toRecord with status := code } target now supply
    · rw [hmove]
      exact ⟨number, blob, code, hcode, rfl⟩
    · obtain rfl : Value.ofTime? blob.stamps.createdAt = createdAt := Except.ok.inj hcreated
      obtain ⟨stored, -, rfl⟩ := refreshedWithin_ofTime? hrefreshed
      rw [hmove]
      exact ⟨target.code, blob.moved target stored, .status target, rfl, rfl⟩

/-- Whatever is done to a record, it stays typed but for a number as its status. -/
theorem IsRecoded.amendedBy {number : Int} {blob : Blob} {record : Record}
    (h : record.IsRecoded number blob) (amendments : List Amendment) :
    ∃ number last, (record.amendedBy amendments).IsRecoded number last := by
  -- The induction is on the amendments from the front, for all records at once.
  induction amendments generalizing record number blob with
  | nil => exact ⟨number, blob, h⟩
  | cons first rest ih =>
    obtain ⟨_, _, hfirst⟩ := h.amended first
    exact ih hfirst

end Record

/-! ## Writing and reading -/

/-- A number is turned into itself. -/
theorem Value.toInteger_of_integer? {value : Value} {number : Int}
    (h : value.integer? = some number) : value.toInteger = .ok number := by
  cases value <;> simp_all [Value.integer?, Value.toInteger]

namespace Blob

variable {blob : Blob} {number : Int}

/-- What is stored of a record that a number was assigned to as its status. -/
theorem toProperties_assigned {code : Value} (hcode : code.integer? = some number)
    (haware : blob.stamps.AreAware) :
    { blob.toRecord with status := code }.toProperties =
      .ok { blob.content with status := number }.toProperties := by
  rw [Record.toProperties, Blob.content_assigned (Value.toInteger_of_integer? hcode) haware]
  rfl

/-- With the code of a status as the number, the record is read in that status. -/
theorem ofItems_coded (haware : blob.stamps.AreAware) (status : Status) :
    Blob.ofItems ({ blob.content with status := status.code } : Content).toProperties
        (.ofUuid? blob.key) =
      .ok { blob with status, stamps := blob.stamps.settle } := by
  have hstamps : ({ blob with status } : Blob).stamps.AreAware := haware
  exact ofItems_toProperties hstamps blob.key

/-- With another number, the record is refused for its status. -/
theorem ofItems_uncoded (hnumber : Status.ofCode? number = none) (key : Value) :
    Blob.ofItems ({ blob.content with status := number } : Content).toProperties key =
      .error (.ofMalformation (.unknownCode statusName number)) := by
  have hnonneg : ¬(blob.size : Int) < 0 := by omega
  have hstatus : statusName ≠ sizeName := by decide
  -- The size is read before the status, and nothing after it.
  simp [Blob.ofItems, Content.toProperties, Blob.content, Blob.readProperty, readSize, readInteger,
    readStatus, hnonneg, hstatus, hnumber, Except.map, bind, Except.bind]

end Blob

/-- **A number that is no status is written, but not read.** A record is built from checked values,
moved along the lifecycle and assigned numbers as its status, in any order. It cannot be written if
one of its times has no offset, and is refused for that time. Otherwise it is written, whatever
number its status is. What is written is read back as a record in the status that the number is the
code of, and is refused as an unknown status if the number is no code. The refusal names the number,
unless that has no text. -/
theorem recoded_round_trip (fields : Fields) (record : Record) (htyped : fields.HasTypedStamps)
    (hbuilt : Record.ofFields fields = .ok record) (amendments : List Amendment) :
    ∃ (number : Int) (stamps : Stamps),
      (record.amendedBy amendments).status.integer? = some number ∧
      (record.amendedBy amendments).timestamps = stamps.toValue ∧
      (stamps.HasNaive → ∃ name time,
        (record.amendedBy amendments).toProperties = .error (.naiveStamp name time)) ∧
      (¬stamps.HasNaive → ∃ items, (record.amendedBy amendments).toProperties = .ok items ∧
        (∀ status : Status, number = status.code → ∃ read,
          Blob.ofProperties (.list items) (record.amendedBy amendments).key = .ok read ∧
            read.status = status) ∧
        ((∀ status : Status, number ≠ status.code) →
          Blob.ofProperties (.list items) (record.amendedBy amendments).key =
            .error (.ofMalformation (.unknownCode statusName number)))) := by
  obtain ⟨blob, rfl⟩ := Record.exists_of_ofFields htyped hbuilt
  obtain ⟨number, last, code, hcode, hlast⟩ :=
    (Record.isRecoded_toRecord blob).amendedBy amendments
  rw [hlast]
  refine ⟨number, last.stamps, hcode, rfl, ?_, ?_⟩
  · exact Blob.toProperties_assigned_of_hasNaive (Value.toInteger_of_integer? hcode)
  · intro hnone
    have haware := Stamps.areAware_iff.2 hnone
    refine ⟨_, Blob.toProperties_assigned hcode haware, ?_, ?_⟩
    · rintro status rfl
      exact ⟨_, Blob.ofItems_coded haware status, rfl⟩
    · intro hunknown
      have hnumber : Status.ofCode? number = none := by
        refine Option.eq_none_iff_forall_ne_some.2 fun status hstatus => ?_
        exact hunknown status (Status.ofCode?_eq_some_iff.1 hstatus)
      exact Blob.ofItems_uncoded hnumber _

/-! A record that is assigned a truth value for its status and then moved can be read back. A record
that is assigned the number 7 cannot. -/

/-- The values that a record is built from. -/
def givenFields : Fields :=
  [("key", .uuid sampleKey), ("size", .text "4"), ("store_key", .text "store"),
    ("timestamps", (⟨some sampleTime, none, some sampleSignature⟩ : Stamps).toValue)]

/-- The record that is built from them. -/
def builtBlob : Blob where
  key := some sampleKey
  size := 4
  status := .unknown
  storeKey := "store"
  recordKey := ""
  stamps := ⟨some sampleTime, none, some sampleSignature⟩

theorem areAware_builtBlob : builtBlob.stamps.AreAware :=
  ⟨by rintro _ ⟨⟩; rfl, by rintro _ ⟨⟩⟩

theorem recoded_round_trip_of_boolean :
    Record.ofFields givenFields = .ok builtBlob.toRecord ∧
      ∃ items read, (builtBlob.toRecord.amendedBy [.recode (.boolean true) 1 rfl,
          .move .ready (.dateTime sampleTime) sampleSupply]).toProperties = .ok items ∧
        Blob.ofProperties (.list items) (.uuid sampleKey) = .ok read ∧ read.status = .ready := by
  have hbuilt : Record.ofFields givenFields = .ok builtBlob.toRecord := by
    with_unfolding_all rfl
  have htyped : givenFields.HasTypedStamps := by
    intro given hgiven _
    exact ⟨⟨some sampleTime, none, some sampleSignature⟩, Option.some.inj hgiven⟩
  have hlast : builtBlob.toRecord.amendedBy [.recode (.boolean true) 1 rfl,
      .move .ready (.dateTime sampleTime) sampleSupply] =
        (builtBlob.moved .ready sampleTime).toRecord := by
    with_unfolding_all rfl
  obtain ⟨number, stamps, hnumber, -, hrefused, hwritten⟩ :=
    recoded_round_trip givenFields _ htyped hbuilt [.recode (.boolean true) 1 rfl,
      .move .ready (.dateTime sampleTime) sampleSupply]
  rw [hlast] at hnumber hrefused hwritten ⊢
  have hnone : ¬stamps.HasNaive := by
    intro hnaive
    obtain ⟨name, time, hfault⟩ := hrefused hnaive
    rw [Blob.toProperties_toRecord (Blob.areAware_moved areAware_builtBlob rfl .ready)] at hfault
    cases hfault
  obtain ⟨items, hitems, hread, -⟩ := hwritten hnone
  obtain ⟨read, haccepted, hstatus⟩ := hread .ready (Option.some.inj hnumber).symm
  exact ⟨hbuilt, items, read, hitems, haccepted, hstatus⟩

theorem recoded_round_trip_of_unknownCode :
    ∃ items, (builtBlob.toRecord.amendedBy [.recode (.integer 7) 7 rfl]).toProperties = .ok items ∧
      Blob.ofProperties (.list items) (.uuid sampleKey) =
        .error (.malformed (.unknownCode statusName 7)) := by
  have hcode : (Value.integer 7).integer? = some 7 := rfl
  have hnumber : Status.ofCode? 7 = none := rfl
  have hread : Blob.ofItems ({ builtBlob.content with status := 7 } : Content).toProperties
      (.uuid sampleKey) = .error (.malformed (.unknownCode statusName 7)) := by
    have hwritable : (Malformation.unknownCode statusName 7).isWritable = true :=
      isWritable_of_lt (by decide)
    rw [Blob.ofItems_uncoded hnumber, Fault.ofMalformation, if_pos hwritable]
  exact ⟨_, Blob.toProperties_assigned hcode areAware_builtBlob, hread⟩

end BlobCatalog
