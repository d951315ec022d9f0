import BlobCatalog.Proofs.RowReading
import BlobCatalog.Proofs.UpdateOutcome

/-!
# Saving a record that was just fetched

A fetched record is moved along the lifecycle and saved while its row is as it was. Moves keep the
key and the signature (`Blob.exists_of_movesTo`), so the row is found, and all that the update asks
is whether the signature in the row is the text of the signature in the record
(`Store.update_of_movesTo`). Reading goes by what a text stands for and writing gives one text of
several, so the two agree for the texts that writing gives (`Cell.IsSignature`) and for no others
(`Store.update_after_fetch_iff`).
-/

namespace BlobCatalog

/-! ## Moves -/

namespace Record

/-- One move of the lifecycle makes a record of another one. -/
def MovesOnce (record moved : Record) : Prop :=
  ∃ target now supply after, record.transition target now supply = (.ok moved, after)

/-- Some moves of the lifecycle make a record of another one. -/
abbrev MovesTo : Record → Record → Prop := Relation.ReflTransGen MovesOnce

end Record

/-- Moves make typed records of typed records and keep the key, the signature and that the times
have offsets. -/
theorem Blob.exists_of_movesTo {blob : Blob} {record : Record} (haware : blob.stamps.AreAware)
    (h : blob.toRecord.MovesTo record) :
    ∃ last : Blob, record = last.toRecord ∧ last.key = blob.key ∧
      last.stamps.signature = blob.stamps.signature ∧ last.stamps.AreAware := by
  induction h with
  | refl => exact ⟨blob, rfl, rfl, rfl, haware⟩
  | tail _ hmove ih =>
    obtain ⟨held, rfl, hkey, hsignature, hheld⟩ := ih
    obtain ⟨target, now, supply, after, hmoved⟩ := hmove
    obtain ⟨-, time, htime, rfl⟩ := Record.transition_toRecord hmoved
    exact ⟨held.moved target time, rfl, hkey, hsignature, Blob.areAware_moved hheld htime target⟩

/-! ## Signatures as they are written -/

/-- The cell holds nothing, or the text of an identifier as it is written. -/
def Cell.IsSignature (cell : Cell) : Prop := cell = .null ∨ ∃ id : Uuid, cell = .text id.text

/-- A cell that is read as a signature is the cell of that signature exactly if it was written as
one. -/
theorem Cell.isSignature_iff {cell : Cell} {signature : Option Uuid}
    (h : cell.IsTextOf (fun content => Uuid.ofText? content) signature) :
    cell.IsSignature ↔ cell = Cell.ofString? (signature.map Uuid.text) := by
  constructor
  · rintro (rfl | ⟨id, rfl⟩)
    · rw [Cell.isTextOf_null.1 h]
      rfl
    · -- Reading undoes writing, so the signature is the written one.
      obtain ⟨held, rfl, hheld⟩ := Cell.isTextOf_text.1 h
      obtain rfl : id = held := Option.some.inj ((Uuid.ofText?_text id).symm.trans hheld)
      rfl
  · intro hcell
    cases signature with
    | none => exact .inl hcell
    | some held => exact .inr ⟨held, hcell⟩

/-! ## Updates -/

namespace Store

variable {kind : String} {key id : Uuid} {blob : Blob} {record : Record} {table later : Table}
  {supply after : Supply} {row : Row}

/-- The update of a record that was moved since it had the signature of a row: the row is found, and
the update succeeds exactly if the row carries that signature. -/
theorem update_of_movesTo (hkeyed : later.IsKeyed) (hfound : later.rowOf kind key = some row)
    (hkey : blob.key = some key) (haware : blob.stamps.AreAware)
    (hmoved : blob.toRecord.MovesTo record) (hid : supply.drawId = (.ok (.uuid id), after)) :
    (row.signature = blob.signatureCell →
      ((⟨.text kind⟩ : Store).update record later supply).outcome = .ok ()) ∧
    (row.signature ≠ blob.signatureCell →
      ((⟨.text kind⟩ : Store).update record later supply).outcome =
        .error (.modified (.uuid key))) := by
  obtain ⟨last, rfl, hlast, hsigned, hstamps⟩ := Blob.exists_of_movesTo haware hmoved
  have hcell : last.signatureCell = blob.signatureCell := by
    rw [Blob.signatureCell, hsigned]
    rfl
  rw [← hcell]
  rcases Store.update_toRecord kind hkeyed (hlast.trans hkey) hstamps hid with
    ⟨hnone, -⟩ | ⟨other, _, hother, hunlike, hupdate⟩ |
      ⟨other, _, _, hother, halike, -, -, -, hupdate⟩
  · rw [hfound] at hnone
    exact absurd hnone (by simp)
  · obtain rfl := Option.some.inj (hfound.symm.trans hother)
    exact ⟨fun halike => absurd halike hunlike, fun _ => by rw [hupdate]⟩
  · obtain rfl := Option.some.inj (hfound.symm.trans hother)
    exact ⟨fun _ => by rw [hupdate], fun hunlike => absurd halike hunlike⟩

/-- **A fetched record is saved exactly if its row carries a signature as it is written.** Let a
row, whoever wrote it, be fetched as a record, let some moves be made on the record, and let the row
be the one of its kind and key in a later table. The update of the record finds the row. It succeeds
if the signature of the row is missing or the text that writing an identifier gives. If the
signature is another text of an identifier, the record is refused as modified, though the row is as
it was. -/
theorem update_after_fetch_iff (kind : String) (key id : Uuid) (row : Row) (table later : Table)
    (blob : Blob) (record : Record) (supply after : Supply)
    (hfound : table.rowOf kind key = some row)
    (hfetch : (⟨.text kind⟩ : Store).fetch (.uuid key) table = .ok (some blob))
    (hmoved : blob.toRecord.MovesTo record) (hkeyed : later.IsKeyed)
    (hkept : later.rowOf kind key = some row) (hid : supply.drawId = (.ok (.uuid id), after)) :
    (((⟨.text kind⟩ : Store).update record later supply).outcome = .ok () ↔
      row.signature.IsSignature) ∧
    (((⟨.text kind⟩ : Store).update record later supply).outcome = .error (.modified (.uuid key)) ↔
      ¬row.signature.IsSignature) := by
  obtain ⟨other, read, hother, hholds, rfl⟩ := (fetch_eq_some_iff rfl).1 hfetch
  obtain rfl := Option.some.inj (hfound.symm.trans hother)
  -- Settling the stamps keeps the key and the signature.
  have hkey : ({ read with stamps := read.stamps.settle } : Blob).key = some key := hholds.key_eq
  have haware : ({ read with stamps := read.stamps.settle } : Blob).stamps.AreAware :=
    hholds.aware.settle
  have hcell : row.signature.IsSignature ↔
      row.signature = ({ read with stamps := read.stamps.settle } : Blob).signatureCell :=
    Cell.isSignature_iff hholds.signature
  obtain ⟨hsaved, hrefused⟩ := update_of_movesTo hkeyed hkept hkey haware hmoved hid
  rw [hcell]
  by_cases halike :
      row.signature = ({ read with stamps := read.stamps.settle } : Blob).signatureCell
  · simp [hsaved halike, halike]
  · simp [hrefused halike, halike]

/-! Two rows of other tools: one has no signature, the signature of the other is in capitals. -/

/-- A row without a signature and with a creation in the basic form. -/
def unsignedRow : Row where
  kind := .text "blob"
  name := .text sampleKey.text
  size := .integer 4
  status := .integer 1
  storeKey := .text "store"
  recordKey := .text "record"
  createdAt := .text "20240229T030405.000006-010203"
  updatedAt := .null
  signature := .null

/-- The record that this row holds. -/
def unsignedBlob : Blob where
  key := some sampleKey
  size := 4
  status := .initializing
  storeKey := "store"
  recordKey := "record"
  stamps := ⟨some sampleTime, none, none⟩

/-- With any signature, the row is fetched as that record with what the signature stands for. -/
theorem fetch_unsignedRow {cell : Cell} {signature : Option Uuid}
    (h : cell.IsTextOf (fun content => Uuid.ofText? content) signature) :
    (⟨.text "blob"⟩ : Store).fetch (.uuid sampleKey) ⟨[{ unsignedRow with signature := cell }]⟩ =
      .ok (some { unsignedBlob with stamps := { unsignedBlob.stamps with signature } }) := by
  have htime : Calendar.DateTime.ofText? "20240229T030405.000006-010203" = some sampleTime := by
    decide +kernel
  refine (fetch_eq_some_iff rfl).2
    ⟨_, { unsignedBlob with stamps := { unsignedBlob.stamps with signature } }, rfl, ?_, rfl⟩
  have htexts : unsignedBlob.IsEncodable := ⟨Text.isString_ofString _, Text.isString_ofString _⟩
  have haware : unsignedBlob.stamps.AreAware := ⟨by rintro _ ⟨⟩; rfl, by rintro _ ⟨⟩⟩
  exact ⟨rfl, rfl, rfl, htexts, rfl, rfl, ⟨_, rfl, htime⟩, rfl, h, haware⟩

theorem update_of_unsignedRow :
    (⟨.text "blob"⟩ : Store).fetch (.uuid sampleKey) ⟨[unsignedRow]⟩ = .ok (some unsignedBlob) ∧
      unsignedBlob.toRecord.MovesTo (unsignedBlob.moved .ready sampleTime).toRecord ∧
      ((⟨.text "blob"⟩ : Store).update (unsignedBlob.moved .ready sampleTime).toRecord
        ⟨[unsignedRow]⟩ sampleSupply).outcome = .ok () := by
  have hfetch : (⟨.text "blob"⟩ : Store).fetch (.uuid sampleKey) ⟨[unsignedRow]⟩ =
      .ok (some unsignedBlob) := fetch_unsignedRow (Cell.isTextOf_null.2 rfl)
  have hmoved : unsignedBlob.toRecord.MovesTo (unsignedBlob.moved .ready sampleTime).toRecord :=
    .single ⟨.ready, .dateTime sampleTime, sampleSupply, _, rfl⟩
  have hfound : (⟨[unsignedRow]⟩ : Table).rowOf "blob" sampleKey = some unsignedRow := by
    decide +kernel
  obtain ⟨hsaved, -⟩ := update_after_fetch_iff "blob" sampleKey sampleKey unsignedRow
    ⟨[unsignedRow]⟩ ⟨[unsignedRow]⟩ unsignedBlob _ sampleSupply _ hfound hfetch hmoved
    (List.pairwise_singleton _ _) hfound rfl
  exact ⟨hfetch, hmoved, hsaved.2 (.inl rfl)⟩

/-- The row with the signature 10 in capitals is fetched, and its record is refused at once. -/
theorem update_of_capitalRow :
    ∃ blob, (⟨.text "blob"⟩ : Store).fetch (.uuid sampleKey)
        ⟨[{ unsignedRow with signature := .text "00000000-0000-0000-0000-00000000000A" }]⟩ =
          .ok (some blob) ∧
      ((⟨.text "blob"⟩ : Store).update blob.toRecord
        ⟨[{ unsignedRow with signature := .text "00000000-0000-0000-0000-00000000000A" }]⟩
        sampleSupply).outcome = .error (.modified (.uuid sampleKey)) :=
  ⟨{ unsignedBlob with stamps := { unsignedBlob.stamps with signature := some ⟨10, by decide⟩ } },
    fetch_unsignedRow ⟨_, rfl, by decide +kernel⟩, by with_unfolding_all rfl⟩

end Store

end BlobCatalog
