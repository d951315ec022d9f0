import BlobCatalog.Proofs.LifecycleMachine

/-!
# Tables that hold a ledger

A table holds a ledger if its rows are those of the records of the ledger, each of them once
(`Table.Holds`). The three changes of a table do to the rows what the three changes of a finite map
do to the records: `Holds.insert`, `Holds.update` and `Holds.erase`.
-/

namespace BlobCatalog

namespace Table

variable {table changed : Table} {kind : String} {ledger : Ledger} {key : Uuid} {blob stored : Blob}

/-- The rows of the table are those of the records of the ledger under a kind. No two of them share
kind and name. -/
structure Holds (table : Table) (kind : String) (ledger : Ledger) : Prop where
  keyed : table.IsKeyed
  mem_iff : ∀ row, row ∈ table.rows ↔
    ∃ key blob, ledger.lookup key = some blob ∧ row = Row.ofBlob kind key blob

theorem holds_empty (kind : String) : empty.Holds kind ∅ := by
  refine ⟨isKeyed_empty, ?_⟩
  intro row
  simp [empty]

/-- A look-up in the table is a look-up in the ledger. -/
theorem Holds.rowOf_eq (h : table.Holds kind ledger) (key : Uuid) :
    table.rowOf kind key = (ledger.lookup key).map (Row.ofBlob kind key) := by
  cases hlookup : ledger.lookup key with
  | none =>
    rw [Option.map_none, rowOf_eq_none_iff]
    rintro row hrow ⟨-, hname⟩
    obtain ⟨other, blob, hother, rfl⟩ := (h.mem_iff row).1 hrow
    have hkey : other = key := by simpa [Row.ofBlob] using hname
    rw [hkey, hlookup] at hother
    exact absurd hother (by simp)
  | some blob =>
    have hmem := (h.mem_iff _).2 ⟨key, blob, hlookup, rfl⟩
    exact h.keyed.find?_of_mem hmem (Row.isAt_ofBlob.2 ⟨rfl, rfl⟩)

/-- A table holds a ledger if look-ups agree and every row is at the place of some key. -/
theorem holds_of_rowOf (hkeyed : table.IsKeyed)
    (hrowOf : ∀ key, table.rowOf kind key = (ledger.lookup key).map (Row.ofBlob kind key))
    (hplace : ∀ row ∈ table.rows, ∃ key : Uuid, row.kind = .text kind ∧
      row.name = .text key.text) : table.Holds kind ledger := by
  refine ⟨hkeyed, ?_⟩
  intro row
  constructor
  · intro hmem
    obtain ⟨key, hkind, hname⟩ := hplace row hmem
    have hat : row.isAt (.text kind) (.text key.text) = true :=
      Row.isAt_iff.2 ⟨⟨by simp, by simp⟩, hkind, hname⟩
    have hfound : table.rowOf kind key = some row := hkeyed.find?_of_mem hmem hat
    rw [hrowOf] at hfound
    obtain ⟨blob, hlookup, hrow⟩ := Option.map_eq_some_iff.1 hfound
    exact ⟨key, blob, hlookup, hrow.symm⟩
  · rintro ⟨key, blob, hlookup, rfl⟩
    have hfound := hrowOf key
    rw [hlookup, Option.map_some] at hfound
    exact (mem_of_rowOf hfound).1

theorem Holds.place (h : table.Holds kind ledger) {row : Row} (hrow : row ∈ table.rows) :
    ∃ key : Uuid, row.kind = .text kind ∧ row.name = .text key.text := by
  obtain ⟨key, blob, -, rfl⟩ := (h.mem_iff row).1 hrow
  exact ⟨key, rfl, rfl⟩

/-- A row is added under a key that the ledger does not have. -/
theorem Holds.insert (h : table.Holds kind ledger) (hnew : ledger.lookup key = none)
    (blob : Blob) :
    ∃ changed, table.insert? (Row.ofBlob kind key blob) = some changed ∧
      changed.Holds kind (Finmap.insert key blob ledger) := by
  have hfree : table.rowOf kind key = none := by
    rw [h.rowOf_eq, hnew]
    rfl
  have hinsert : table.insert? (Row.ofBlob kind key blob) =
      some ⟨table.rows ++ [Row.ofBlob kind key blob]⟩ :=
    (insert?_eq (Row.stored_ofBlob kind key blob) (Row.isComplete_ofBlob kind key blob)).trans
      (if_pos hfree)
  refine ⟨_, hinsert, holds_of_rowOf (h.keyed.insert? hinsert) ?_ ?_⟩
  · intro other
    rw [rowOf_insert? hinsert]
    split
    · next hsame =>
      subst hsame
      rw [Finmap.lookup_insert, Option.map_some]
    · next hne => rw [Finmap.lookup_insert_of_ne _ (Ne.symm hne), h.rowOf_eq]
  · intro row hrow
    rcases List.mem_append.1 hrow with hold | hadded
    · exact h.place hold
    · obtain rfl := List.mem_singleton.1 hadded
      exact ⟨key, rfl, rfl⟩

/-- An update of a row replaces its record by the one with the new status, last update and
signature. -/
theorem Holds.update (h : table.Holds kind ledger) (hlookup : ledger.lookup key = some stored)
    {signature : Cell} {id : Uuid}
    (hupdate : table.update? (.text kind) (.text key.text) signature (blob.change id) =
      some changed) :
    changed.Holds kind (Finmap.insert key
      { stored with
        status := blob.status
        stamps := ⟨stored.stamps.createdAt, blob.stamps.updatedAt, some id⟩ } ledger) := by
  apply holds_of_rowOf (h.keyed.update? hupdate)
  · intro other
    rw [rowOf_updated h.keyed hupdate, h.rowOf_eq, h.rowOf_eq, hlookup]
    split
    · next hplace =>
      obtain ⟨-, rfl⟩ := hplace
      simp only [Finmap.lookup_insert, Option.map_some, Blob.apply_change]
    · next hne =>
      have hother : other ≠ key := fun hsame => hne ⟨rfl, hsame.symm⟩
      rw [Finmap.lookup_insert_of_ne _ hother]
  · intro row hrow
    rw [rows_of_update? hupdate] at hrow
    obtain ⟨old, hold, rfl⟩ := List.mem_map.1 hrow
    -- A change keeps kind and name.
    obtain ⟨place, hkind, hname⟩ := h.place hold
    refine ⟨place, ?_⟩
    split <;> exact ⟨hkind, hname⟩

/-- A row is removed with its record. -/
theorem Holds.erase (h : table.Holds kind ledger) (key : Uuid) :
    (table.erase (.text kind) (.text key.text)).Holds kind (Finmap.erase key ledger) := by
  apply holds_of_rowOf h.keyed.erase
  · intro other
    rw [rowOf_erase]
    split
    · next hsame =>
      subst hsame
      rw [Finmap.lookup_erase, Option.map_none]
    · next hne => rw [Finmap.lookup_erase_ne (Ne.symm hne), h.rowOf_eq]
  · intro row hrow
    exact h.place (List.mem_filter.1 hrow).1

end Table

end BlobCatalog
