import BlobCatalog.Proofs.StoreRoundTrip
import BlobCatalog.Proofs.UpdateOutcome

/-!
# Updates that are all or nothing

An update that fails should leave the table and the record as they were, and one that succeeds
should change one row and give the record the signature of that row (`Update.IsAtomic`). The
signature is noted in the time stamps and the status is named in a log line after the change is
written, so an update of a record whose status has no name, or whose time stamps cannot note what is
set, writes the change and then fails. `update_isAtomic_iff` states that there is no other way in
which an update is not all or nothing, and `not_isAtomic_sample` shows one such update.
-/

namespace BlobCatalog

/-- The result of an update is all or nothing for the table and the record that it was given. A
fault leaves both alone. Without a fault one row is changed and no other, the one named by the key,
and the record differs from the given one only in its signature, whose text the changed row
holds. -/
structure Update.IsAtomic (result : Update) (table : Table) (record : Record) : Prop where
  of_error : ∀ fault, result.outcome = .error fault →
    result.table = table ∧ result.record = record
  of_ok : result.outcome = .ok () →
    ∃ before row changed rest createdAt updatedAt old new,
      table.rows = before ++ row :: rest ∧ result.table.rows = before ++ changed :: rest ∧
      Cell.ofText record.key.shown = .ok row.name ∧ changed.SamePlace row ∧
      record.timestamps = .stamps createdAt updatedAt old ∧
      result.record = { record with timestamps := .stamps createdAt updatedAt new } ∧
      Cell.ofText new.shown = .ok changed.signature

namespace Store

variable {store : Store} {record : Record} {table : Table} {supply : Supply}

/-- An update that is refused is all or nothing. -/
theorem isAtomic_of_refused {fault : Fault} {log : List LogEntry} {after : Supply} :
    Update.IsAtomic { outcome := .error fault, table, log, record, supply := after } table
      record :=
  ⟨fun _ _ => ⟨rfl, rfl⟩, fun h => absurd h (by simp)⟩

theorem isAtomic_unwritten (key : Key) (bound : Parameters) (after : Supply) :
    (unwritten key bound record table after).IsAtomic table record := by
  unfold unwritten
  split <;> exact isAtomic_of_refused

/-- The update writes its change and only then fails: the row of the record carries its signature,
the update cannot be ended, and the change or the new signature makes a difference. -/
def FailsLate (store : Store) (record : Record) (table : Table) (supply : Supply) : Prop :=
  ∃ key content id after bound row,
    IsPrepared store record supply key content id after bound ∧
    (¬∃ status, Ends content record status) ∧
    table.find? bound.kind bound.name = some row ∧ row.signature = bound.expected ∧
    ¬(bound.change.apply row = row ∧ record.withSignature id = record)

section Prepared

variable {key : Key} {content : Content} {id : Value} {after : Supply} {bound : Parameters}

/-- A prepared update fails late exactly when its own change does. -/
theorem failsLate_iff_of_prepared
    (h : IsPrepared store record supply key content id after bound) :
    FailsLate store record table supply ↔
      (¬∃ status, Ends content record status) ∧
        ∃ row, table.find? bound.kind bound.name = some row ∧ row.signature = bound.expected ∧
          ¬(bound.change.apply row = row ∧ record.withSignature id = record) := by
  constructor
  · rintro ⟨otherKey, otherContent, otherId, _, otherBound, row, hother, hrest⟩
    obtain ⟨rfl, rfl, rfl, rfl⟩ := h.unique hother
    obtain ⟨hends, hfound, hsignature, hne⟩ := hrest
    exact ⟨hends, row, hfound, hsignature, hne⟩
  · rintro ⟨hends, row, hfound, hsignature, hne⟩
    exact ⟨key, content, id, after, bound, row, h, hends, hfound, hsignature, hne⟩

/-- A written change after which the update is ended is all or nothing. -/
theorem isAtomic_written {changed : Table} {status : Status} (hkeyed : table.IsKeyed)
    (h : IsPrepared store record supply key content id after bound)
    (hupdate : table.update? bound.kind bound.name bound.expected bound.change = some changed)
    (hends : Ends content record status) :
    (written key content id record changed after).IsAtomic table record := by
  obtain ⟨before, row, rest, hrows, hchanged, hname, hsigned, -, -⟩ :=
    h.exists_split hkeyed hupdate
  obtain ⟨createdAt, updatedAt, old, hstamps⟩ := stamps_of_content h.content_eq hends.1
  have hrecord : record.withSignature id =
      { record with timestamps := .stamps createdAt updatedAt id } := by
    simp only [Record.withSignature, hstamps]
  rw [written_of_ends hends]
  constructor
  · intro fault hfault
    exact absurd hfault (by simp)
  · intro _
    exact ⟨before, row, _, rest, createdAt, updatedAt, old, id, hrows, hchanged, hname,
      ⟨rfl, rfl⟩, hstamps, hrecord, hsigned⟩

/-- A written change after which the update cannot be ended is all or nothing if writing made no
difference. -/
theorem isAtomic_written_of_not_ends {changed : Table} (hkeyed : table.IsKeyed)
    (h : IsPrepared store record supply key content id after bound)
    (hupdate : table.update? bound.kind bound.name bound.expected bound.change = some changed)
    (hends : ¬∃ status, Ends content record status)
    (hlate : ¬FailsLate store record table supply) :
    (written key content id record changed after).IsAtomic table record := by
  obtain ⟨before, row, rest, hrows, hchanged, -, -, hfound, hsignature⟩ :=
    h.exists_split hkeyed hupdate
  have hsame : bound.change.apply row = row ∧ record.withSignature id = record :=
    Classical.byContradiction fun hne =>
      hlate ((failsLate_iff_of_prepared h).2 ⟨hends, row, hfound, hsignature, hne⟩)
  have hrows' : changed.rows = table.rows := by rw [hchanged, hrows, hsame.1]
  have htable : changed = table := congrArg Table.mk hrows'
  obtain ⟨fault, heq⟩ := written_of_not_ends hends
  rw [heq]
  exact ⟨fun _ _ => ⟨htable, hsame.2⟩, fun h => absurd h (by simp)⟩

end Prepared

/-- An update that fails late is not all or nothing: its fault leaves the change behind. -/
theorem not_isAtomic_of_failsLate (hkeyed : table.IsKeyed)
    (hlate : FailsLate store record table supply) :
    ¬(store.update record table supply).IsAtomic table record := by
  obtain ⟨key, content, id, after, bound, row, h, hends, hfound, hsignature, hne⟩ := hlate
  obtain ⟨-, -, -, hexpected⟩ := cells_of_parameters h.parameters_eq
  have hsome : (table.update? bound.kind bound.name bound.expected bound.change).isSome = true :=
    hkeyed.update?_isSome_iff.2
      ⟨row, hfound, hsignature.trans (Cell.asText_of_ofText? hexpected).symm⟩
  obtain ⟨changed, hupdate⟩ := Option.isSome_iff_exists.1 hsome
  obtain ⟨before, found, rest, hrows, hchanged, -, -, hfound', -⟩ := h.exists_split hkeyed hupdate
  obtain rfl := Option.some.inj (hfound.symm.trans hfound')
  -- The fault comes when the change is in the table.
  obtain ⟨fault, hwritten⟩ := written_of_not_ends hends
  simp only [update_of_prepared h, hupdate, hwritten]
  rintro ⟨hunchanged, -⟩
  obtain ⟨htable, hrecord⟩ := hunchanged _ rfl
  simp only at htable hrecord
  rw [htable, hrows] at hchanged
  have hrow := (List.cons.inj (List.append_cancel_left hchanged)).1
  exact hne ⟨hrow.symm, hrecord⟩

/-- An update that does not fail late is all or nothing. -/
theorem isAtomic_of_not_failsLate (hkeyed : table.IsKeyed)
    (hlate : ¬FailsLate store record table supply) :
    (store.update record table supply).IsAtomic table record := by
  by_cases hprepared : ∃ key content id after bound,
      IsPrepared store record supply key content id after bound
  · obtain ⟨key, content, id, after, bound, h⟩ := hprepared
    rw [update_of_prepared h]
    cases hupdate : table.update? bound.kind bound.name bound.expected bound.change with
    | none => exact isAtomic_unwritten key bound after
    | some changed =>
      by_cases hends : ∃ status, Ends content record status
      · obtain ⟨status, hends⟩ := hends
        exact isAtomic_written hkeyed h hupdate hends
      · exact isAtomic_written_of_not_ends hkeyed h hupdate hends hlate
  · obtain ⟨fault, after, heq⟩ := update_of_not_prepared hprepared table
    rw [heq]
    exact isAtomic_of_refused

/-- A record whose status was assigned a number without a name fails late whenever its row carries
its signature and a new identifier is drawn. -/
theorem failsLate_assigned {kind : String} {key : Uuid} {blob : Blob} {number : Int} {id : Uuid}
    {after : Supply} {row : Row} (hkey : blob.key = some key) (haware : blob.stamps.AreAware)
    (hfits : Cell.fits number = true) (hnumber : Status.ofCode? number = none)
    (hid : supply.drawId = (.ok (.uuid id), after)) (hnew : blob.stamps.signature ≠ some id)
    (hfound : table.find? (.text kind) (.text key.text) = some row)
    (hsignature : row.signature = blob.signatureCell) :
    FailsLate ⟨.text kind⟩ { blob.toRecord with status := .integer number } table supply := by
  refine (failsLate_iff_of_prepared (isPrepared_assigned rfl hfits hkey haware hid)).2
    ⟨?_, row, hfound, hsignature, fun hsame => hnew ?_⟩
  · rintro ⟨status, -, hstatus⟩
    exact Option.some_ne_none status (hstatus.symm.trans hnumber)
  -- If the change made no difference, the drawn identifier would be the old signature.
  have hrow : Cell.text id.text = row.signature := congrArg Row.signature hsame.1
  rw [hsignature, Blob.signatureCell] at hrow
  cases hheld : blob.stamps.signature with
  | none => rw [hheld] at hrow; exact absurd hrow (by simp [Cell.ofString?])
  | some held =>
    rw [hheld] at hrow
    simpa [Cell.ofString?] using hrow.symm

/-! ## Main result -/

/-- **An update is all or nothing unless it fails late**: the only steps after the change is written
that can fail are the noting of the signature and the naming of the status. -/
theorem update_isAtomic_iff (store : Store) (record : Record) (table : Table) (supply : Supply)
    (hkeyed : table.IsKeyed) :
    (store.update record table supply).IsAtomic table record ↔
      ¬FailsLate store record table supply :=
  ⟨fun hatomic hlate => not_isAtomic_of_failsLate hkeyed hlate hatomic,
    isAtomic_of_not_failsLate hkeyed⟩

/-! The sample record with its row, and an update of it before and after its status was assigned. -/

/-- The table with the row of the sample record. -/
def sampleTable : Table := ⟨[Row.ofBlob "blob" sampleKey sampleBlob]⟩

/-- A supply with one more identifier. -/
def nextSupply : Supply := .start (fun _ => none) (Supply.listed [.uuid ⟨3, by decide⟩])

theorem isKeyed_sampleTable : sampleTable.IsKeyed := List.pairwise_singleton _ _

theorem find?_sampleTable :
    sampleTable.find? (.text "blob") (.text sampleKey.text) =
      some (Row.ofBlob "blob" sampleKey sampleBlob) :=
  isKeyed_sampleTable.find?_of_mem List.mem_cons_self (Row.isAt_ofBlob.2 ⟨rfl, rfl⟩)

theorem isAtomic_sample :
    ((⟨.text "blob"⟩ : Store).update sampleBlob.toRecord sampleTable nextSupply).IsAtomic
      sampleTable sampleBlob.toRecord := by
  refine (update_isAtomic_iff _ _ _ _ isKeyed_sampleTable).2 ?_
  rw [failsLate_iff_of_prepared (isPrepared_toRecord rfl areAware_sampleBlob rfl)]
  rintro ⟨hends, -⟩
  exact hends ⟨sampleBlob.status, rfl, Status.ofCode?_code _⟩

/-- The status was assigned the number 7, which has no name: the row is changed all the same. -/
theorem not_isAtomic_sample :
    ¬((⟨.text "blob"⟩ : Store).update { sampleBlob.toRecord with status := .integer 7 }
      sampleTable nextSupply).IsAtomic sampleTable
        { sampleBlob.toRecord with status := .integer 7 } :=
  not_isAtomic_of_failsLate isKeyed_sampleTable
    (failsLate_assigned rfl areAware_sampleBlob (by decide) (by decide) rfl (by decide)
      find?_sampleTable rfl)

end Store

end BlobCatalog
