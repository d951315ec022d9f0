import BlobCatalog.Proofs.PropertyReading

/-!
# What is read is in normal form

A list of properties that is accepted may hold its properties in any order and more than once, with
others among them, and may say that a record was last updated before its creation. The record that
is read from it shows none of this. It can always be written, and what is written is read as the
same record (`read_isNormal`). So to read a list and write it again (`canonicalProperties`) is to
bring it to a form that stays as it is, and that two lists share exactly if they describe the same
record.
-/

namespace BlobCatalog

open Calendar (DateTime)

/-! ## Stamps that are read -/

/-- A stamp that is read has an offset, if it is there. -/
theorem isAware_of_isLast {name : String} {held : Option Value} {stamp : Option DateTime}
    (h : IsLast (readStamp name) none held stamp) : ∀ time ∈ stamp, time.isAware = true := by
  cases held with
  | none =>
    obtain rfl : stamp = none := h
    exact fun _ htime => absurd htime (by simp)
  | some value => exact (readStamp_eq_ok_iff.1 h).2

namespace Stamps

/-- The times have offsets and are in order. -/
structure IsNormal (stamps : Stamps) : Prop where
  areAware : stamps.AreAware
  ordered : ¬stamps.IsReversed

theorem isNormal_empty : empty.IsNormal where
  areAware := ⟨fun _ h => absurd h (by simp [empty]), fun _ h => absurd h (by simp [empty])⟩
  ordered := by
    rintro ⟨created, hcreated, -⟩
    cases hcreated

/-- Time stamps that are read from a list are normal: each time was checked, and the last update was
raised to the creation after all of them were read. -/
theorem isNormal_of_ofProperties {outer : String} {items : List Value} {stamps : Stamps}
    (h : ofProperties outer items = .ok stamps) : stamps.IsNormal := by
  obtain ⟨-, read, hread, rfl⟩ := ofProperties_eq_ok_iff.1 h
  have haware : read.AreAware :=
    ⟨isAware_of_isLast hread.createdAt, isAware_of_isLast hread.updatedAt⟩
  exact ⟨haware.settle, not_isReversed_settle haware⟩

end Stamps

/-- Time stamps that are read from a value are normal. -/
theorem isNormal_of_readStamps {name : String} {value : Value} {stamps : Stamps}
    (h : readStamps name value = .ok stamps) : stamps.IsNormal := by
  obtain ⟨items, hitems, -⟩ := readStamps_isOk_iff.1 ⟨stamps, h⟩
  rw [readStamps_of_isComposite name hitems] at h
  exact Stamps.isNormal_of_ofProperties h

/-! ## Records that are read -/

namespace Blob

variable {blob : Blob} {items : List Value} {properties key : Value}

/-- The time stamps of a record that is read are normal. -/
theorem isNormal_of_ofItems (h : Blob.ofItems items key = .ok blob) : blob.stamps.IsNormal := by
  obtain ⟨-, -, hread⟩ := ofItems_eq_ok_iff.1 h
  have hlast := hread.stamps
  cases hstamps : Value.lastNamed? timestampsName items with
  | none =>
    rw [hstamps] at hlast
    have hempty : blob.stamps = .empty := hlast
    rw [hempty]
    exact Stamps.isNormal_empty
  | some value =>
    rw [hstamps] at hlast
    exact isNormal_of_readStamps hlast

/-- A record is read from the items that properties are gone through by. -/
theorem exists_items_of_ofProperties (h : Blob.ofProperties properties key = .ok blob) :
    ∃ items, properties.items = .ok items ∧ Blob.ofItems items key = .ok blob := by
  cases hitems : properties.items with
  | error fault => simp [ofProperties, hitems, bind, Except.bind] at h
  | ok items =>
    simp only [ofProperties, hitems, bind, Except.bind] at h
    exact ⟨items, rfl, h⟩

/-- A record whose stamps are normal is read from its properties as it is, under any key that the
key field accepts. -/
theorem ofItems_properties (h : blob.stamps.IsNormal) {id : Option Uuid}
    (hkey : Field.identifier key = .ok id) :
    Blob.ofItems blob.properties key = .ok { blob with key := id } := by
  have hid : Field.identifier (.ofUuid? id) = .ok id := by cases id <;> rfl
  have hread : Blob.ofItems blob.properties (.ofUuid? id) =
      .ok { blob with key := id, stamps := blob.stamps.settle } :=
    ofItems_toProperties h.areAware id
  rw [Stamps.settle_of_not_isReversed h.ordered] at hread
  have hsame : Blob.ofItems blob.properties key = Blob.ofItems blob.properties (.ofUuid? id) := by
    simp only [Blob.ofItems, hkey, hid]
  exact hsame.trans hread

end Blob

/-! ## The normal form of a list -/

/-- The form that a property list is written in: it is read under a key and written again. -/
def canonicalProperties (properties key : Value) : Except Fault (List Value) := do
  let blob ← Blob.ofProperties properties key
  blob.toRecord.toProperties

/-- The canonical form of properties that are read is what the record is written as. -/
theorem canonicalProperties_of_isNormal {properties key : Value} {blob : Blob}
    (h : Blob.ofProperties properties key = .ok blob) (hnormal : blob.stamps.IsNormal) :
    canonicalProperties properties key = .ok blob.properties := by
  simp only [canonicalProperties, h, bind, Except.bind]
  exact Blob.toProperties_toRecord hnormal.areAware

/-- **What is read is in normal form.** A record that is read from any properties under any key has
a size that is not negative, a status and times with offsets, and its last update is not before its
creation. So it can be written, and under its key it is read again as it is. The canonical form of
the properties is what is written; under every key that is accepted it is its own canonical form,
and other properties that are read under the same key share it exactly if they are read as the same
record. -/
theorem read_isNormal {properties key : Value} {blob : Blob}
    (h : Blob.ofProperties properties key = .ok blob) :
    (∃ size : Int, blob.toRecord.size = .integer size ∧ 0 ≤ size) ∧
    (∃ status : Status, blob.toRecord.status = .status status) ∧
    ¬blob.stamps.HasNaive ∧ ¬blob.stamps.IsReversed ∧
    blob.toRecord.toProperties = .ok blob.properties ∧
    Blob.ofProperties (.list blob.properties) blob.toRecord.key = .ok blob ∧
    canonicalProperties properties key = .ok blob.properties ∧
    (∀ other id, Field.identifier other = .ok id →
      canonicalProperties (.list blob.properties) other = .ok blob.properties) ∧
    ∀ others read, Blob.ofProperties others key = .ok read →
      (canonicalProperties others key = canonicalProperties properties key ↔ read = blob) := by
  obtain ⟨items, -, hitems⟩ := Blob.exists_items_of_ofProperties h
  have hnormal := Blob.isNormal_of_ofItems hitems
  have hkey : Field.identifier key = .ok blob.key := (Blob.ofItems_eq_ok_iff.1 hitems).2.1
  have hcanonical := canonicalProperties_of_isNormal h hnormal
  refine ⟨⟨blob.size, rfl, by omega⟩, ⟨blob.status, rfl⟩, Stamps.areAware_iff.1 hnormal.areAware,
    hnormal.ordered, Blob.toProperties_toRecord hnormal.areAware, ?_, hcanonical, ?_, ?_⟩
  · have hid : Field.identifier blob.toRecord.key = .ok blob.key := by
      rw [Blob.toRecord]
      cases blob.key <;> rfl
    exact Blob.ofItems_properties hnormal hid
  · intro other id hid
    have hread : Blob.ofProperties (.list blob.properties) other =
        .ok { blob with key := id } := Blob.ofItems_properties hnormal hid
    -- What is written does not depend on the key.
    have hwritten := canonicalProperties_of_isNormal hread hnormal
    exact hwritten
  · intro others read hread
    obtain ⟨list, -, hlist⟩ := Blob.exists_items_of_ofProperties hread
    have hother := Blob.isNormal_of_ofItems hlist
    have hid : Field.identifier key = .ok read.key := (Blob.ofItems_eq_ok_iff.1 hlist).2.1
    rw [canonicalProperties_of_isNormal hread hother, hcanonical, Except.ok.injEq]
    constructor
    · intro hsame
      -- Both records are read from the list that they share.
      have hleft := Blob.ofItems_properties hother hid
      have hright := Blob.ofItems_properties hnormal hkey
      rw [hsame, hright] at hleft
      exact (Except.ok.inj hleft).symm
    · rintro rfl
      rfl

/-! The sample items lack a status and hold a size twice and other names; their time stamps are a
tuple. -/

theorem canonicalProperties_sampleItems :
    ∃ blob, Blob.ofProperties (.list sampleItems) (.uuid sampleKey) = .ok blob ∧
      canonicalProperties (.list sampleItems) (.uuid sampleKey) = .ok blob.properties ∧
      canonicalProperties (.list blob.properties) .absent = .ok blob.properties ∧
      blob.properties.length = 5 := by
  obtain ⟨blob, hblob⟩ := Blob.exists_ofItems isRecordItem_sampleItems
    (rfl : Field.identifier (.uuid sampleKey) = .ok (some sampleKey))
  have hread : Blob.ofProperties (.list sampleItems) (.uuid sampleKey) = .ok blob := hblob
  obtain ⟨-, -, -, -, -, -, hcanonical, hagain, -⟩ := read_isNormal hread
  exact ⟨blob, hread, hcanonical, hagain .absent none rfl, rfl⟩

end BlobCatalog
