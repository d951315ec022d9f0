import BlobCatalog.Catalog
import BlobCatalog.Proofs.PrintedLine
import BlobCatalog.Proofs.StoreRoundTrip
import BlobCatalog.Proofs.TypedLifecycle
import BlobCatalog.Proofs.UpdateOutcome

/-!
# What the operations of a catalog do to the table

One description for each operation of a catalog, in terms of the row under a key: loading reads that
row (`load_eq`), a purge removes it if the loaded record awaits deletion (`purge_eq`), a creation
adds one (`create_cases`), and a move changes it if it still carries the signature of the loaded
record (`move_cases`). Each change of the table is one step; whether others have changed the row
since it was loaded is left open. Where the supply has what is needed and the row is as it was
loaded, a creation and a move succeed and print the record (`create_of_supply`, `move_of_edge`).
-/

namespace BlobCatalog

namespace Catalog

variable {catalog : Catalog} {kind : String} {key : Uuid} {table : Table} {supply : Supply}

/-! ## Kinds that cannot be encoded -/

/-- A catalog of a kind that cannot be encoded loads nothing. -/
theorem load_of_not_isString {kind : Text} (hstore : catalog.store = ⟨.text kind⟩)
    (hkind : ¬kind.IsString) (text : Text) (table : Table) :
    catalog.load text table =
      .error (if Uuid.ofText? text = none then .unreadableKey (.text text) else .unencodable) := by
  have hcell : Cell.ofValue (.text kind) = .error .unencodable := Cell.ofText_of_not_isString hkind
  cases hkey : Uuid.ofText? text with
  | none => simp [load, Key.identifierOf, hkey, bind, Except.bind]
  | some key =>
    simp [load, Key.identifierOf, hkey, Store.fetch, hstore, hcell, bind, Except.bind]

/-- A catalog of a kind that cannot be encoded serves no request and changes nothing. -/
theorem serve_of_not_isString {kind : Text} (hstore : catalog.store = ⟨.text kind⟩)
    (hkind : ¬kind.IsString)
    (hids : ∀ draw value, supply.idAt draw = some value → ∃ id, value = .uuid id)
    (request : Request) (table : Table) :
    ∃ fault after, catalog.serve request table supply = unchanged (.error fault) table after := by
  cases request with
  | create size storeKey recordKey =>
    obtain ⟨after, -, ⟨fault, hcreate⟩ | ⟨key, signature, now, number, store, entry, -, -, -, -,
      hcreate⟩⟩ := Record.create_cases hids (switchValue (size.map fun number => .integer number))
        (switchValue (storeKey.map Value.text)) (switchValue (recordKey.map Value.text))
    · exact ⟨fault, after, by simp only [serve, create, hcreate]⟩
    · have hkey : (Blob.created key signature now number store entry).key = some key := rfl
      obtain ⟨fault, -, hinsert⟩ := Store.insert_of_not_isString hkind hkey table
      refine ⟨fault, after, ?_⟩
      simp only [serve, create, hcreate, hstore, hinsert, Except.bind]
      rfl
  | manage action text =>
    exact ⟨_, supply, by rw [serve, load_of_not_isString hstore hkind]⟩

/-! ## Loading -/

/-- A text that is no key is refused; any other one finds the record of the row under its key. -/
theorem load_eq (hstore : catalog.store = ⟨.text kind⟩) (text : Text) (table : Table) :
    catalog.load text table =
      match Uuid.ofText? text with
      | none => .error (.unreadableKey (.text text))
      | some key =>
        match table.rowOf kind key with
        | none => .error (.notFound (.uuid key))
        | some row => row.toBlob.map (Loaded.mk key) := by
  cases hkey : Uuid.ofText? text with
  | none => simp only [load, Key.identifierOf, hkey, bind, Except.bind]
  | some key =>
    have hfetch := Store.fetch_uuid (congrArg Store.kind hstore) key table
    simp only [load, Key.identifierOf, hkey, hfetch, bind, Except.bind]
    cases table.rowOf kind key with
    | none => rfl
    | some row =>
      simp only
      cases row.toBlob <;> rfl

/-- A record that is loaded is the one that the row under its key holds, and its key is the one that
the text stands for. -/
theorem exists_row_of_load (hstore : catalog.store = ⟨.text kind⟩) {text : Text} {found : Loaded}
    (h : catalog.load text table = .ok found) :
    ∃ row, Uuid.ofText? text = some found.key ∧ table.rowOf kind found.key = some row ∧
      row.toBlob = .ok found.blob := by
  rw [load_eq hstore] at h
  split at h
  · exact absurd h (by simp)
  · next key htext =>
    split at h
    · exact absurd h (by simp)
    · next row hrow =>
      cases hread : row.toBlob with
      | error fault => simp [hread, Except.map] at h
      | ok blob =>
        simp only [hread, Except.map, Except.ok.injEq] at h
        subst h
        exact ⟨row, htext, hrow, hread⟩

/-- A record that is loaded is the one that the row under its key holds. -/
theorem row_of_load (hstore : catalog.store = ⟨.text kind⟩) {text : Text} {found : Loaded}
    (h : catalog.load text table = .ok found) :
    ∃ row, table.rowOf kind found.key = some row ∧ row.toBlob = .ok found.blob := by
  obtain ⟨row, -, hrow, hread⟩ := exists_row_of_load hstore h
  exact ⟨row, hrow, hread⟩

/-! ## Purging -/

/-- A loaded record that awaits deletion is removed, whatever its row has become; another one is
left alone. -/
theorem purge_eq (hstore : catalog.store = ⟨.text kind⟩) (found : Loaded) (table : Table)
    (supply : Supply) :
    catalog.purge found table supply =
      if found.blob.status = .pendingDeletion then
        ⟨.ok (purgedLine found.key), table.erase (.text kind) (.text found.key.text), supply,
          [Store.entry .debug ("Deleted blob ref " ++ kind ++ "/" ++ found.key.text)]⟩
      else unchanged (.error (.notPurgeable found.key found.blob.status)) table supply := by
  rw [purge, Store.delete_uuid (congrArg Store.kind hstore)]
  rfl

/-! ## Creating -/

/-- What a creation can do: leave the table alone, or add the row of a new record with texts that
are strings and times that have offsets. -/
theorem create_cases (hstore : catalog.store = ⟨.text kind⟩)
    (hids : ∀ draw value, supply.idAt draw = some value → ∃ id, value = .uuid id)
    (size : Option Nat) (storeKey recordKey : Option Text) (table : Table) :
    supply.LeadsTo (catalog.create size storeKey recordKey table supply).supply ∧
      ((catalog.create size storeKey recordKey table supply).table = table ∨
        ∃ key signature now number store entry,
          supply.idAt supply.drawn = some (.uuid key) ∧
          supply.idAt (supply.drawn + 1) = some (.uuid signature) ∧
          (catalog.create size storeKey recordKey table supply).supply = supply.afterCreation ∧
          (Blob.created key signature now number store entry).stamps.AreAware ∧
          (Blob.created key signature now number store entry).IsEncodable ∧
          table.insert? (Row.ofBlob kind key (.created key signature now number store entry)) =
            some (catalog.create size storeKey recordKey table supply).table) := by
  obtain ⟨after, hlater, ⟨fault, hcreate⟩ | ⟨key, signature, now, number, store, entry, hkey,
    hsignature, -, rfl, hcreate⟩⟩ := Record.create_cases hids
      (switchValue (size.map fun number => .integer number))
      (switchValue (storeKey.map Value.text)) (switchValue (recordKey.map Value.text))
  · have hservice : catalog.create size storeKey recordKey table supply =
        unchanged (.error fault) table after := by
      simp only [create, hcreate]
    rw [hservice]
    exact ⟨hlater, .inl rfl⟩
  · have hservice : (catalog.create size storeKey recordKey table supply).table =
          (catalog.store.insert
            (Blob.created key signature now number store entry).toRecord table).table ∧
        (catalog.create size storeKey recordKey table supply).supply = supply.afterCreation := by
      simp only [create, hcreate, and_self]
    rw [hservice.1, hservice.2]
    refine ⟨hlater, ?_⟩
    -- The record is made; the table changes if it can be inserted, even if it is not printed.
    cases houtcome : (catalog.store.insert
        (Blob.created key signature now number store entry).toRecord table).outcome with
    | error fault => exact .inl (Store.table_of_insert_error houtcome)
    | ok =>
      have hkind : catalog.store.kind = .text kind := congrArg Store.kind hstore
      obtain ⟨haware, hencodable, hinsert⟩ := Store.insert?_of_insert hkind rfl houtcome
      exact .inr ⟨key, signature, now, number, store, entry, hkey, hsignature, rfl, haware,
        hencodable, hinsert⟩

/-- A creation from strings whose row can be added prints the new record. -/
theorem create_of_supply (hstore : catalog.store = ⟨.text kind⟩) {signature : Uuid}
    {now : Calendar.DateTime} {size : Nat} {storeKey recordKey : Text} {changed : Table}
    (hkey : supply.idAt supply.drawn = some (.uuid key))
    (hnow : supply.timeAt supply.ticks = some now)
    (hsignature : supply.idAt (supply.drawn + 1) = some (.uuid signature))
    (haware : (Blob.created key signature now size storeKey recordKey).stamps.AreAware)
    (hsize : size < Nat.pow 2 63) (hstoreKey : storeKey.IsString)
    (hrecordKey : recordKey.IsString)
    (hinsert : table.insert?
      (Row.ofBlob kind key (.created key signature now size storeKey recordKey)) =
        some changed) :
    ∃ log, catalog.create (some size) (some storeKey) (some recordKey) table supply =
      ⟨.ok ((Blob.created key signature now size storeKey recordKey).line key catalog.locator),
        changed, supply.afterCreation, log⟩ := by
  have hfits : Cell.fits size = true := Cell.fits_natCast_iff.2 hsize
  have hplace : (Blob.created key signature now size storeKey recordKey).toRecord.storageKey
      catalog.store.kind = .ok ⟨kind, key.text⟩ := by
    rw [hstore]
    exact Blob.storageKey_toRecord rfl kind
  have hrow : Row.ofContent ⟨kind, key.text⟩
      (Blob.created key signature now size storeKey recordKey).content =
        .ok (Row.ofBlob kind key (.created key signature now size storeKey recordKey)) := by
    rw [Row.ofContent_content]
    exact (if_pos hfits).trans (if_pos ⟨hstoreKey, hrecordKey⟩)
  have hadded : catalog.store.insert
      (Blob.created key signature now size storeKey recordKey).toRecord table = _ :=
    Store.insert_of_row hplace (Blob.content_toRecord haware) hrow
  rw [hinsert] at hadded
  have hprinted : (Blob.created key signature now size storeKey recordKey).toRecord.printed
      catalog.locator = _ := Blob.printed_toRecord rfl catalog.locator
  -- The switches carry the size and the two texts.
  have hcreated : Record.create (switchValue ((some size).map fun number => .integer number))
      (switchValue ((some storeKey).map Value.text)) (switchValue ((some recordKey).map Value.text))
        supply = (.ok (Blob.created key signature now size storeKey recordKey).toRecord,
          supply.afterCreation) :=
    Record.create_of_supply hkey hnow hsignature size storeKey recordKey
  refine ⟨[Store.entry .debug ("Created blob ref " ++ (⟨kind, key.text⟩ : Key).text)], ?_⟩
  simp only [create, hcreated, hadded, hprinted, Except.bind]

/-! ## Moving -/

/-- A move off the edges of the lifecycle is forbidden. -/
theorem move_of_not_edge {found : Loaded} {chosen : Move}
    (h : ¬found.blob.status.Edge chosen.target) (table : Table) (supply : Supply) :
    catalog.move chosen found table supply =
      unchanged (.error (.forbidden (.status found.blob.status) (.status chosen.target))) table
        supply := by
  simp only [move, Record.transition_of_not_edge h]

/-- A move along an edge changes the row that carries the signature of the loaded record, and prints
the record with its new signature. -/
theorem move_of_edge (hstore : catalog.store = ⟨.text kind⟩) (hkeyed : table.IsKeyed)
    {found : Loaded} {chosen : Move} {now : Calendar.DateTime} {id : Uuid} {row : Row}
    (hkey : found.blob.key = some key) (haware : found.blob.stamps.AreAware)
    (hedge : found.blob.status.Edge chosen.target)
    (hnow : supply.timeAt supply.ticks = some now) (hnowAware : now.isAware = true)
    (hid : supply.idAt supply.drawn = some (.uuid id))
    (hrow : table.rowOf kind key = some row)
    (hsignature : row.signature = found.blob.signatureCell) :
    ∃ changed log,
      table.update? (.text kind) (.text key.text) found.blob.signatureCell
        ((found.blob.moved chosen.target now).change id) = some changed ∧
      catalog.move chosen found table supply =
        ⟨.ok (((found.blob.moved chosen.target now).signed id).line key catalog.locator), changed,
          { supply with ticks := supply.ticks + 1, drawn := supply.drawn + 1 }, log⟩ := by
  have hmoved := Record.transition_of_edge hedge hnow hnowAware
  have hmovedKey : (found.blob.moved chosen.target now).key = some key := hkey
  have hstamps := Blob.areAware_moved haware hnowAware chosen.target
  have hdrawn : ({ supply with ticks := supply.ticks + 1 } : Supply).drawId =
      (.ok (.uuid id), { supply with ticks := supply.ticks + 1, drawn := supply.drawn + 1 }) := by
    simp only [Supply.drawId, hid]
  rcases Store.update_toRecord kind hkeyed hmovedKey hstamps hdrawn with
    ⟨hnone, -⟩ | ⟨other, log, hother, hne, -⟩ | ⟨other, changed, log, -, -, hupdate, -, -, hsaved⟩
  · -- The row is there.
    exact absurd (hrow.symm.trans hnone) (by simp)
  · -- The row carries the signature of the loaded record, which a move keeps.
    obtain rfl := Option.some.inj (hrow.symm.trans hother)
    exact absurd hsignature hne
  · refine ⟨changed, log, hupdate, ?_⟩
    have hsignedKey : ((found.blob.moved chosen.target now).signed id).key = some key := hkey
    simp only [move, hmoved, hstore, hsaved, Blob.printed_toRecord hsignedKey, Except.bind]

/-- What a move can do: leave the table alone, or move the row that carries the signature of the
loaded record. -/
theorem move_cases (hstore : catalog.store = ⟨.text kind⟩) (hkeyed : table.IsKeyed)
    (hids : ∀ draw value, supply.idAt draw = some value → ∃ id, value = .uuid id)
    {found : Loaded} (hkey : found.blob.key = some key) (haware : found.blob.stamps.AreAware)
    (chosen : Move) :
    supply.LeadsTo (catalog.move chosen found table supply).supply ∧
      ((catalog.move chosen found table supply).table = table ∨
        ∃ time id row changed draw, found.blob.status.Edge chosen.target ∧
          (found.blob.moved chosen.target time).stamps.AreAware ∧
          supply.drawn ≤ draw ∧ supply.idAt draw = some (.uuid id) ∧
          draw < (catalog.move chosen found table supply).supply.drawn ∧
          table.rowOf kind key = some row ∧ row.signature = found.blob.signatureCell ∧
          changed.IsKeyed ∧
          (∀ otherKind other, changed.rowOf otherKind other =
            if kind = otherKind ∧ key = other then
              some (((found.blob.moved chosen.target time).change id).apply row)
            else table.rowOf otherKind other) ∧
          (catalog.move chosen found table supply).table = changed) := by
  rcases hmoved : found.blob.toRecord.transition chosen.target .absent supply with
    ⟨fault | record, after⟩
  · have hservice : catalog.move chosen found table supply =
        unchanged (.error fault) table after := by
      simp only [move, hmoved]
    rw [hservice]
    exact ⟨Record.leadsTo_transition hmoved, .inl rfl⟩
  · have hlater := Record.leadsTo_transition hmoved
    obtain ⟨hedge, time, htime, rfl⟩ := Record.transition_toRecord hmoved
    have hstamps := Blob.areAware_moved haware htime chosen.target
    have hmovedKey : (found.blob.moved chosen.target time).key = some key := hkey
    have hservice : (catalog.move chosen found table supply).table =
          ((⟨.text kind⟩ : Store).update (found.blob.moved chosen.target time).toRecord table
            after).table ∧
        (catalog.move chosen found table supply).supply =
          ((⟨.text kind⟩ : Store).update (found.blob.moved chosen.target time).toRecord table
            after).supply := by
      simp only [move, hmoved, hstore, and_self]
    rw [hservice.1, hservice.2]
    -- The move is allowed; the rest is up to the identifier and to the row.
    rcases hid : after.drawId with ⟨fault | value, last⟩
    · rw [Store.update_of_drawId_error hmovedKey hstamps hid table]
      exact ⟨hlater.trans (.of_drawId hid), .inl rfl⟩
    · obtain ⟨hvalue, rfl⟩ := Prod.mk.inj hid
      -- What is drawn is an identifier from a place that was not used before.
      obtain ⟨id, hheld, rfl⟩ : ∃ id, supply.idAt after.drawn = some (.uuid id) ∧
          value = .uuid id := by
        rw [hlater.idAt_eq] at hvalue
        cases hheld : supply.idAt after.drawn with
        | none => simp [hheld] at hvalue
        | some held =>
          obtain ⟨id, rfl⟩ := hids _ _ hheld
          rw [hheld] at hvalue
          exact ⟨id, rfl, (Except.ok.inj hvalue).symm⟩
      have hdrawn := hlater.trans (.of_drawId hid)
      rcases Store.update_toRecord kind hkeyed hmovedKey hstamps hid with
        ⟨-, hupdate⟩ | ⟨_, log, -, -, hupdate⟩ |
          ⟨row, changed, log, hfound, hsignature, -, hchanged, hrowOf, hupdate⟩
      · rw [hupdate]
        exact ⟨hdrawn, .inl rfl⟩
      · rw [hupdate]
        exact ⟨hdrawn, .inl rfl⟩
      · rw [hupdate]
        exact ⟨hdrawn, .inr ⟨time, id, row, changed, after.drawn, hedge, hstamps, hlater.drawn_le,
          hheld, Nat.lt_succ_self _, hfound, hsignature, hchanged, hrowOf, rfl⟩⟩

end Catalog

end BlobCatalog
