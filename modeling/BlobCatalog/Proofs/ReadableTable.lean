import BlobCatalog.Proofs.StoreCalls
import BlobCatalog.Proofs.TypedLifecycle

/-!
# What a store writes stays readable

Stores of any kinds share a table that is empty at first, and are called with typed records, in any
order and with any success. Every row is then the row of a typed record whose texts are strings and
whose times have offsets (`Table.IsWritten`): an insertion adds such a row, an update turns one into
another, and a removal adds nothing. Reading the row of such a record meets none of the faults that
a row can have, so every row is fetched under the identifier that its name is the text of
(`fetch_after_calls`).
-/

namespace BlobCatalog

/-! ## The invariant -/

/-- The records of a call are typed, and what it draws is an identifier. -/
def Call.IsTyped : Call → Prop
  | insert record => ∃ blob : Blob, record = blob.toRecord
  | fetch _ => True
  | update record supply => (∃ blob : Blob, record = blob.toRecord) ∧ supply.GivesUuids
  | delete _ => True

/-- The row is the row of a typed record whose texts are strings and whose times have offsets. -/
def Row.IsWritten (row : Row) : Prop :=
  ∃ (kind : String) (key : Uuid) (blob : Blob),
    row = Row.ofBlob kind key blob ∧ blob.stamps.AreAware ∧ blob.IsEncodable

namespace Table

variable {table changed : Table}

/-- The table is keyed, and each of its rows is the row of a typed record. -/
structure IsWritten (table : Table) : Prop where
  isKeyed : table.IsKeyed
  rows : ∀ row ∈ table.rows, row.IsWritten

theorem isWritten_empty : empty.IsWritten :=
  ⟨isKeyed_empty, fun _ hrow => absurd hrow List.not_mem_nil⟩

theorem IsWritten.insert? (hwritten : table.IsWritten) {kind : String} {key : Uuid} {blob : Blob}
    (haware : blob.stamps.AreAware) (hencodable : blob.IsEncodable)
    (h : table.insert? (Row.ofBlob kind key blob) = some changed) : changed.IsWritten := by
  refine ⟨hwritten.isKeyed.insert? h, fun row hrow => ?_⟩
  rw [insert?_eq (Row.stored_ofBlob kind key blob) (Row.isComplete_ofBlob kind key blob)] at h
  split at h
  · obtain rfl := Option.some.inj h
    rcases List.mem_append.1 hrow with hold | hnew
    · exact hwritten.rows row hold
    · exact ⟨kind, key, blob, List.mem_singleton.1 hnew, haware, hencodable⟩
  · exact absurd h (by simp)

/-- An update writes a status, a time and a signature of a typed record, so that a changed row is
the row of a typed record again. -/
theorem IsWritten.update? (hwritten : table.IsWritten) {kind name signature : Cell} {blob : Blob}
    {id : Uuid} (haware : blob.stamps.AreAware)
    (h : table.update? kind name signature (blob.change id) = some changed) :
    changed.IsWritten := by
  refine ⟨hwritten.isKeyed.update? h, fun row hrow => ?_⟩
  rw [rows_of_update? h] at hrow
  obtain ⟨held, hheld, rfl⟩ := List.mem_map.1 hrow
  split
  · obtain ⟨kind, key, stored, rfl, hstored, hencodable⟩ := hwritten.rows held hheld
    exact ⟨kind, key, _, Blob.apply_change blob stored id kind key, ⟨hstored.1, haware.2⟩,
      hencodable⟩
  · exact hwritten.rows held hheld

theorem IsWritten.erase (hwritten : table.IsWritten) (kind name : Cell) :
    (table.erase kind name).IsWritten :=
  ⟨hwritten.isKeyed.erase, fun row hrow => hwritten.rows row (List.mem_filter.1 hrow).1⟩

/-- A call with typed records leaves only rows of typed records in the table. -/
theorem IsWritten.call (hwritten : table.IsWritten) (kind : String) {call : Call}
    (htyped : call.IsTyped) : ((⟨.text kind⟩ : Store).call call table).2.IsWritten := by
  cases call with
  | insert record =>
    obtain ⟨blob, rfl⟩ := htyped
    cases houtcome : ((⟨.text kind⟩ : Store).insert blob.toRecord table).outcome with
    | error fault =>
      have hsame := Store.table_of_insert_error houtcome
      simpa only [Store.call, hsame] using hwritten
    | ok =>
      obtain ⟨key, -, haware, hencodable, hinsert⟩ :=
        Store.exists_of_insert_toRecord kind houtcome
      exact hwritten.insert? haware hencodable hinsert
  | fetch key => exact hwritten
  | update record supply =>
    obtain ⟨⟨blob, rfl⟩, hids⟩ := htyped
    rcases Store.update_toRecord_cases kind blob table hids with
      ⟨fault, log, after, heq⟩ | ⟨key, id, changed, log, after, -, haware, hchanged, heq⟩
    · simpa only [Store.call, heq] using hwritten
    · simpa only [Store.call, heq] using hwritten.update? haware hchanged
  | delete key =>
    rw [Store.call, Store.delete_uuid rfl]
    exact hwritten.erase _ _

/-! ## Runs -/

/-- The table after calls of stores of the given kinds. -/
def calls (table : Table) (steps : List (String × Call)) : Table :=
  steps.foldl (fun table step => ((⟨.text step.1⟩ : Store).call step.2 table).2) table

theorem IsWritten.calls (hwritten : table.IsWritten) {steps : List (String × Call)}
    (htyped : ∀ step ∈ steps, step.2.IsTyped) : (table.calls steps).IsWritten := by
  induction steps generalizing table with
  | nil => exact hwritten
  | cons step rest ih =>
    apply ih
    · exact hwritten.call step.1 (htyped step List.mem_cons_self)
    · exact fun later hlater => htyped later (List.mem_cons_of_mem _ hlater)

end Table

/-! ## Reading -/

/-- **What stores write stays readable.** After any calls with typed records, from the empty table,
the name of every row is the text of an identifier, and every store of its kind fetches a record
under that identifier. The record has the identifier as its key and the size and the status of the
row; its times have offsets, and its last update is not before its creation. -/
theorem fetch_after_calls {steps : List (String × Call)}
    (htyped : ∀ step ∈ steps, step.2.IsTyped) :
    ∀ row ∈ (Table.empty.calls steps).rows, ∃ (kind : String) (key : Uuid) (blob : Blob),
      row.kind = .text kind ∧ row.name = .text key.text ∧ Uuid.ofText? key.text = some key ∧
      (∀ store : Store, store.kind = .text kind →
        store.fetch (.uuid key) (Table.empty.calls steps) = .ok (some blob)) ∧
      blob.key = some key ∧ row.size = .integer blob.size ∧
      row.status = .integer blob.status.code ∧ blob.stamps.AreAware ∧
      ¬blob.stamps.HasEarlierUpdate := by
  intro row hrow
  have hwritten := Table.isWritten_empty.calls htyped
  obtain ⟨kind, key, stored, rfl, haware, hencodable⟩ := hwritten.rows row hrow
  have hfound : (Table.empty.calls steps).rowOf kind key = some (Row.ofBlob kind key stored) :=
    hwritten.isKeyed.find?_of_mem hrow (Row.isAt_ofBlob.2 ⟨rfl, rfl⟩)
  refine ⟨kind, key, { stored with key := some key, stamps := stored.stamps.recorded.settle }, rfl,
    rfl, Uuid.ofText?_text key, ?_, rfl, rfl, rfl, haware.recorded.settle,
    Stamps.not_hasEarlierUpdate_recorded haware⟩
  exact fun store hstore => Store.fetch_of_rowOf hstore haware hencodable hfound

/-- Two kinds, a record that is added twice, an update that another one has outdated, and a
removal. -/
def sampleCalls : List (String × Call) :=
  [("blob", .insert sampleBlob.toRecord), ("blob", .insert sampleBlob.toRecord),
    ("note", .insert sampleBlob.toRecord), ("blob", .update sampleBlob.toRecord sampleSupply),
    ("blob", .update sampleBlob.toRecord sampleSupply), ("note", .delete sampleKey)]

/-- The row that the sample calls leave: the first record with the signature of its update. -/
def sampleRow : Row :=
  (sampleBlob.change sampleKey).apply (Row.ofBlob "blob" sampleKey sampleBlob)

theorem fetch_after_sampleCalls :
    (Table.empty.calls sampleCalls).rows = [sampleRow] ∧ ∃ blob : Blob,
      (⟨.text "blob"⟩ : Store).fetch (.uuid sampleKey) (Table.empty.calls sampleCalls) =
        .ok (some blob) ∧ blob.key = some sampleKey ∧ blob.stamps.AreAware ∧
      ¬blob.stamps.HasEarlierUpdate := by
  have hids : sampleSupply.GivesUuids := (Supply.isDistinct_numbered _).isUuid
  have hinsert : (Call.insert sampleBlob.toRecord).IsTyped := ⟨sampleBlob, rfl⟩
  have hupdate : (Call.update sampleBlob.toRecord sampleSupply).IsTyped := ⟨⟨sampleBlob, rfl⟩, hids⟩
  have hdelete : (Call.delete sampleKey).IsTyped := trivial
  have htyped : ∀ step ∈ sampleCalls, step.2.IsTyped := by
    simp [sampleCalls, hinsert, hupdate, hdelete]
  have hrows : (Table.empty.calls sampleCalls).rows = [sampleRow] := by decide +kernel
  have hmem : sampleRow ∈ (Table.empty.calls sampleCalls).rows := by simp [hrows]
  obtain ⟨kind, key, blob, hkind, hname, -, hfetch, hkey, -, -, haware, hordered⟩ :=
    fetch_after_calls htyped sampleRow hmem
  obtain rfl : "blob" = kind := Cell.text.inj hkind
  obtain rfl : sampleKey = key := Uuid.text_injective (Cell.text.inj hname)
  exact ⟨hrows, blob, hfetch ⟨.text "blob"⟩ rfl, hkey, haware, hordered⟩

end BlobCatalog
