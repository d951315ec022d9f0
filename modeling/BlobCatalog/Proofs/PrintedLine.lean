import BlobCatalog.Proofs.UuidText
import BlobCatalog.Record.Printed

/-!
# The line of a typed record

A record with a key is printed as one JSON object, `Blob.json`, and it always can be printed
(`Blob.printed_toRecord`). Its object lies right under the directory of the objects, because the
text of a key is one segment of a path (`Path.ofText_text`).
-/

namespace BlobCatalog

open BlobCatalog.Text

/-! ## The place of the object -/

/-- A list without the mark is one piece. -/
theorem Text.pieces_of_not_mem {α : Type} [DecidableEq α] {mark : α} {text : List α}
    (h : mark ∉ text) :
    pieces mark text = [text] := by
  induction text with
  | nil => rfl
  | cons c rest ih =>
    have hc : c ≠ mark := fun hsame => h (hsame ▸ List.mem_cons_self)
    rw [pieces, if_neg hc, ih fun hmem => h (List.mem_cons_of_mem _ hmem)]
    rfl

/-- A path that does not begin with a slash starts where it is read. -/
theorem Path.startOf_of_not_mem {text : List Point} (h : .char '/' ∉ text) :
    startOf text = .here := by
  cases text with
  | nil => rfl
  | cons point rest =>
    have hpoint : point ≠ .char '/' := fun hsame => h (hsame ▸ List.mem_cons_self)
    simp [startOf, hpoint]

namespace Uuid

theorem hexDigit_ne_slash : ∀ value < 16, hexDigit value ≠ '/' := by
  decide

theorem slash_not_mem_chars (uuid : Uuid) : '/' ∉ uuid.chars := by
  intro h
  rcases mem_hyphenated h with hdigit | hhyphen
  · obtain ⟨value, hvalue, heq⟩ := Text.exists_of_mem_paddedHex hdigit
    exact hexDigit_ne_slash value hvalue heq
  · exact absurd hhyphen (by decide)

theorem hyphen_mem_chars (uuid : Uuid) : '-' ∈ uuid.chars := by
  simp [chars, hyphenated]

theorem points_text (uuid : Uuid) : (uuid.text : Text).points = uuid.chars.map .char := by
  rw [Text.points_ofString, text, String.toList_ofList]

theorem slash_not_mem_points (uuid : Uuid) : .char '/' ∉ (uuid.text : Text).points := by
  simpa [points_text] using uuid.slash_not_mem_chars

/-- The text of an identifier is one segment of a path. -/
theorem isSegment_points (uuid : Uuid) : Path.isSegment (uuid.text : Text).points = true := by
  have hmem : .char '-' ∈ (uuid.text : Text).points := by
    simpa [points_text] using uuid.hyphen_mem_chars
  have hempty : (uuid.text : Text).points ≠ [] := fun h => by simp [h] at hmem
  have hpoint : (uuid.text : Text).points ≠ [.char '.'] := fun h => by simp [h] at hmem
  simp [Path.isSegment, hempty, hpoint]

end Uuid

/-- The text of an identifier names the path with that one segment. -/
theorem Path.ofText_text (key : Uuid) : Path.ofText key.text = ⟨.here, [key.text]⟩ := by
  have hslash := key.slash_not_mem_points
  simp [Path.ofText, Text.pieces_of_not_mem hslash, Path.startOf_of_not_mem hslash,
    key.isSegment_points]

/-- The object of a record whose key is an identifier lies under the text of the key. -/
theorem Locator.locate_of_key {record : Record} {key : Uuid} (h : record.key = .uuid key)
    (locator : Locator) :
    locator.locate record = .ok (locator.directory.child key.text).text := by
  have hpath : record.objectPath = .ok key.text := by
    simp [Record.objectPath, h]
  rw [Locator.locate, hpath, Except.map, Path.ofText_text]
  rfl

/-- The object of a typed record lies under the text of its key. -/
theorem Locator.locate_toRecord {blob : Blob} {key : Uuid} (h : blob.key = some key)
    (locator : Locator) :
    locator.locate blob.toRecord = .ok (locator.directory.child key.text).text :=
  locate_of_key (by simp [Blob.toRecord, h, Value.ofUuid?]) locator

/-! ## The line -/

/-- A time or nothing as JSON. -/
def timeJson (time : Option Calendar.DateTime) : Json :=
  match time with
  | some held => .text held.shortText
  | none => .null

/-- An identifier or nothing as JSON. -/
def idJson (id : Option Uuid) : Json :=
  match id with
  | some held => .text held.text
  | none => .null

namespace Blob

/-- A record under a key as JSON. -/
def json (blob : Blob) (key : Uuid) (locator : Locator) : Json :=
  .object
    [("key", .text key.text), ("size", .integer blob.size), ("status", .text blob.status.name),
      ("store_key", .text blob.storeKey), ("record_key", .text blob.recordKey),
      ("timestamps", .object
        [("created_at", timeJson blob.stamps.createdAt),
          ("updated_at", timeJson blob.stamps.updatedAt),
          ("signature", idJson blob.stamps.signature)]),
      ("object_location", .text (locator.directory.child key.text).text)]

/-- The line that shows a record under a key. -/
def line (blob : Blob) (key : Uuid) (locator : Locator) : String :=
  (blob.json key locator).render

theorem toJson_ofTime? (time : Option Calendar.DateTime) :
    (Value.ofTime? time).toJson = timeJson time := by
  cases time <;> simp [Value.ofTime?, Value.toJson, timeJson]

theorem toJson_ofUuid? (id : Option Uuid) : (Value.ofUuid? id).toJson = idJson id := by
  cases id <;> simp [Value.ofUuid?, Value.toJson, idJson]

/-- Nothing keeps a typed record from being printed. -/
theorem obstacleAmong?_fieldValues (blob : Blob) :
    Value.obstacleAmong? blob.toRecord.fieldValues = none := by
  have htime : ∀ time, (Value.ofTime? time).obstacle? = none := by
    intro time
    cases time <;> simp [Value.ofTime?, Value.obstacle?]
  have hid : ∀ id, (Value.ofUuid? id).obstacle? = none := by
    intro id
    cases id <;> simp [Value.ofUuid?, Value.obstacle?]
  simp [Record.fieldValues, toRecord, Stamps.toValue, Value.obstacleAmong?, Value.obstacle?, htime,
    hid]

theorem ofValue?_status (status : Status) : Status.ofValue? (.status status) = some status := by
  cases status <;> rfl

/-- **A typed record with a key is printed as its JSON.** -/
theorem printed_toRecord {blob : Blob} {key : Uuid} (h : blob.key = some key)
    (locator : Locator) : blob.toRecord.printed locator = .ok (blob.line key locator) := by
  have hjson : blob.toRecord.toJson locator = .ok (blob.json key locator) := by
    have hkey : blob.toRecord.key.toJson = .text key.text := by
      rw [toRecord, h]
      simp [Value.ofUuid?, Value.toJson]
    have hstatus : Status.ofValue? blob.toRecord.status = some blob.status :=
      ofValue?_status blob.status
    simp only [Record.toJson, obstacleAmong?_fieldValues, hstatus, Locator.locate_toRecord h, hkey]
    simp [toRecord, Stamps.toValue, Value.toJson, toJson_ofTime?, toJson_ofUuid?, json, bind,
      Except.bind, pure, Except.pure]
  rw [Record.printed, hjson]
  rfl

end Blob

end BlobCatalog
