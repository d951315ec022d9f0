import BlobCatalog.Proofs.TypedLifecycle

/-!
# What an update does

`Store.update` prepares a change of a row and then tries it. `update_of_prepared` is the one
description of the second half, which is `Store.written` or `unwritten`, and an update that gets no
further than its preparation fails and changes nothing (`update_of_not_prepared`). A change that is
written in a keyed table is the change of one row (`IsPrepared.exists_split`).
-/

namespace BlobCatalog

/-- A computation of two steps succeeds exactly if both do. -/
theorem Checked.bind_eq_ok_iff {ε α β : Type} {first : Except ε α} {next : α → Except ε β}
    {value : β} :
    first >>= next = .ok value ↔ ∃ held, first = .ok held ∧ next held = .ok value := by
  cases first with
  | error fault => simp [bind, Except.bind]
  | ok held => simp [bind, Except.bind]

namespace Store

variable {store : Store} {record : Record} {table : Table} {supply : Supply}

/-! ## The two halves of an update -/

/-- Everything that an update needs before it turns to the table: where the record is stored, what
is stored of it, the drawn identifier and the cells it is bound to. -/
structure IsPrepared (store : Store) (record : Record) (supply : Supply) (key : Key)
    (content : Content) (id : Value) (after : Supply) (bound : Parameters) : Prop where
  storageKey_eq : record.storageKey store.kind = .ok key
  content_eq : record.content = .ok content
  drawId_eq : supply.drawId = (.ok id, after)
  parameters_eq : parameters key content id = .ok bound

/-- The cells that an update is bound to. -/
theorem cells_of_parameters {key : Key} {content : Content} {id : Value} {bound : Parameters}
    (h : parameters key content id = .ok bound) :
    Cell.ofText id.shown = .ok bound.change.signature ∧ Cell.ofText key.kind = .ok bound.kind ∧
      Cell.ofText key.name = .ok bound.name ∧
      Cell.ofText? content.signature = .ok bound.expected := by
  simp only [parameters, Checked.bind_eq_ok_iff] at h
  obtain ⟨text, htext, status, -, drawn, hdrawn, kind, hkind, name, hname, expected, hexpected,
    heq⟩ := h
  obtain ⟨-, rfl⟩ := Value.spelled_eq_ok_iff.1 htext
  obtain rfl := Except.ok.inj heq
  exact ⟨hdrawn, hkind, hname, hexpected⟩

/-- An update can be ended after its change is written: the signature is noted, and the status has
a name. -/
def Ends (content : Content) (record : Record) (status : Status) : Prop :=
  record.noteAssigned = .ok () ∧ Status.ofCode? content.status = some status

theorem written_of_ends {key : Key} {content : Content} {id : Value} {record : Record}
    {changed : Table} {after : Supply} {status : Status} (h : Ends content record status) :
    written key content id record changed after =
      { outcome := .ok (), table := changed
        log := [entry .debug ("Updated blob ref " ++ key.text ++ " to " ++ status.name)]
        record := record.withSignature id, supply := after } := by
  simp only [written, h.1, h.2]

/-- An update that cannot be ended fails with its change written. -/
theorem written_of_not_ends {content : Content} {record : Record}
    (h : ¬∃ status, Ends content record status) :
    ∃ fault, ∀ key id changed after, written key content id record changed after =
      { outcome := .error fault, table := changed, log := [], record := record.withSignature id
        supply := after } := by
  cases hnoted : record.noteAssigned with
  | error fault => exact ⟨fault, fun _ _ _ _ => by simp only [written, hnoted]⟩
  | ok noted =>
    cases hstatus : Status.ofCode? content.status with
    | none =>
      exact ⟨.noStatus (.integer content.status), fun _ _ _ _ => by
        simp only [written, hnoted, hstatus]⟩
    | some status => exact absurd ⟨status, hnoted, hstatus⟩ h

theorem record_written (key : Key) (content : Content) (id : Value) (record : Record)
    (changed : Table) (after : Supply) :
    (written key content id record changed after).record = record.withSignature id := by
  by_cases hends : ∃ status, Ends content record status
  · obtain ⟨status, hends⟩ := hends
    rw [written_of_ends hends]
  · obtain ⟨fault, heq⟩ := written_of_not_ends hends
    rw [heq]

/-- A change that was not written: no row is there, or another signature is. -/
def unwritten (key : Key) (bound : Parameters) (record : Record) (table : Table)
    (after : Supply) : Update :=
  match table.find? bound.kind bound.name with
  | none =>
    { outcome := .error (.notFound record.key), table, log := [], record, supply := after }
  | some _ =>
    let text := "Signature mismatch updating blob ref " ++ key.text
    { outcome := .error (.modified record.key), table, log := [entry .warning text], record
      supply := after }

theorem unwritten_of_none {key : Key} {bound : Parameters} {record : Record} {table : Table}
    {after : Supply} (h : table.find? bound.kind bound.name = none) :
    unwritten key bound record table after =
      { outcome := .error (.notFound record.key), table, log := [], record, supply := after } := by
  rw [unwritten, h]

theorem unwritten_of_some {key : Key} {bound : Parameters} {record : Record} {table : Table}
    {after : Supply} {row : Row} (h : table.find? bound.kind bound.name = some row) :
    unwritten key bound record table after =
      { outcome := .error (.modified record.key), table
        log := [entry .warning ("Signature mismatch updating blob ref " ++ key.text)], record
        supply := after } := by
  rw [unwritten, h]

/-- A prepared update writes its change if the table has the row with the signature of the record,
and is refused otherwise. -/
theorem update_of_prepared {key : Key} {content : Content} {id : Value} {after : Supply}
    {bound : Parameters} (h : IsPrepared store record supply key content id after bound)
    (table : Table) :
    store.update record table supply =
      match table.update? bound.kind bound.name bound.expected bound.change with
      | some changed => written key content id record changed after
      | none => unwritten key bound record table after := by
  obtain ⟨hkey, hcontent, hid, hbound⟩ := h
  cases hupdate : table.update? bound.kind bound.name bound.expected bound.change with
  | some changed =>
    simp only [update, hkey, hcontent, hid, hbound, hupdate, bind, Except.bind, pure, Except.pure]
  | none =>
    cases hfound : table.find? bound.kind bound.name <;>
      simp only [update, unwritten, hkey, hcontent, hid, hbound, hupdate, hfound, bind,
        Except.bind, pure, Except.pure]

theorem update_of_changed {key : Key} {content : Content} {id : Value} {after : Supply}
    {bound : Parameters} {changed : Table}
    (h : IsPrepared store record supply key content id after bound)
    (hchanged : table.update? bound.kind bound.name bound.expected bound.change = some changed) :
    store.update record table supply = written key content id record changed after := by
  rw [update_of_prepared h, hchanged]

theorem update_of_unchanged {key : Key} {content : Content} {id : Value} {after : Supply}
    {bound : Parameters} (h : IsPrepared store record supply key content id after bound)
    (hchanged : table.update? bound.kind bound.name bound.expected bound.change = none) :
    store.update record table supply = unwritten key bound record table after := by
  rw [update_of_prepared h, hchanged]

/-- An update that is not prepared fails with the same fault in every table and changes nothing. -/
theorem refused_of_not_prepared
    (h : ¬∃ key content id after bound,
      IsPrepared store record supply key content id after bound) :
    ∃ fault after, ∀ table : Table, store.update record table supply =
      { outcome := .error fault, table, log := [], record, supply := after } := by
  -- The four parts are asked for in this order, and the first that is missing is the fault.
  cases hkey : record.storageKey store.kind with
  | error fault =>
    refine ⟨fault, supply, fun table => ?_⟩
    simp [update, hkey, bind, Except.bind]
  | ok key =>
    cases hcontent : record.content with
    | error fault =>
      refine ⟨fault, supply, fun table => ?_⟩
      simp [update, hkey, hcontent, bind, Except.bind]
    | ok content =>
      rcases hid : supply.drawId with ⟨drawn, after⟩
      cases drawn with
      | error fault =>
        refine ⟨fault, after, fun table => ?_⟩
        simp [update, hkey, hcontent, hid, bind, Except.bind, pure, Except.pure]
      | ok id =>
        cases hbound : parameters key content id with
        | error fault =>
          refine ⟨fault, after, fun table => ?_⟩
          simp [update, hkey, hcontent, hid, hbound, bind, Except.bind, pure, Except.pure]
        | ok bound =>
          exact absurd ⟨key, content, id, after, bound, hkey, hcontent, hid, hbound⟩ h

/-- An update that is not prepared fails and changes nothing. -/
theorem update_of_not_prepared
    (h : ¬∃ key content id after bound,
      IsPrepared store record supply key content id after bound) (table : Table) :
    ∃ fault after, store.update record table supply =
      { outcome := .error fault, table, log := [], record, supply := after } := by
  obtain ⟨fault, after, heq⟩ := refused_of_not_prepared h
  exact ⟨fault, after, heq table⟩

/-- An update gives the record a new signature or leaves it as it is, whether it succeeds or not. -/
theorem record_update (store : Store) (record : Record) (table : Table) (supply : Supply) :
    (store.update record table supply).record = record ∨
      ∃ id, (store.update record table supply).record = record.withSignature id := by
  by_cases hprepared : ∃ key content id after bound,
      IsPrepared store record supply key content id after bound
  · obtain ⟨key, content, id, after, bound, h⟩ := hprepared
    rw [update_of_prepared h]
    split
    · exact .inr ⟨id, record_written _ _ _ _ _ _⟩
    · refine .inl ?_
      unfold unwritten
      split <;> rfl
  · obtain ⟨fault, after, heq⟩ := update_of_not_prepared hprepared table
    exact .inl (by rw [heq])

/-- What an update needs before it turns to the table is determined by its arguments. -/
theorem IsPrepared.unique {key otherKey : Key} {content otherContent : Content}
    {id otherId : Value} {after otherAfter : Supply} {bound otherBound : Parameters}
    (h : IsPrepared store record supply key content id after bound)
    (hother : IsPrepared store record supply otherKey otherContent otherId otherAfter
      otherBound) :
    key = otherKey ∧ content = otherContent ∧ id = otherId ∧ bound = otherBound := by
  have hkey := Except.ok.inj (h.storageKey_eq.symm.trans hother.storageKey_eq)
  have hcontent := Except.ok.inj (h.content_eq.symm.trans hother.content_eq)
  have hid : id = otherId := by
    have hdrawn := h.drawId_eq.symm.trans hother.drawId_eq
    rw [Prod.mk.injEq, Except.ok.injEq] at hdrawn
    exact hdrawn.1
  subst hkey hcontent hid
  exact ⟨rfl, rfl, rfl, Except.ok.inj (h.parameters_eq.symm.trans hother.parameters_eq)⟩

/-- A record is stored under the text of its key. -/
theorem name_of_storageKey {kind : Value} {key : Key} (h : record.storageKey kind = .ok key) :
    key.name = record.key.shown := by
  unfold Record.storageKey at h
  split at h
  · exact absurd h (by simp)
  · obtain ⟨name, hname, hfields⟩ := Checked.bind_eq_ok_iff.1 h
    obtain ⟨content, -, rfl⟩ := Key.eq_of_ofFields hfields
    exact (Value.spelled_eq_ok_iff.1 hname).2.symm

/-- A record that can be written has stamps, which are not loose if they note what is set. -/
theorem stamps_of_content {content : Content} (h : record.content = .ok content)
    (hnoted : record.noteAssigned = .ok ()) :
    ∃ createdAt updatedAt signature, record.timestamps = .stamps createdAt updatedAt signature := by
  cases hstatus : record.status.toInteger with
  | error fault => simp [Record.content, hstatus, bind, Except.bind] at h
  | ok status =>
    simp only [Record.content, hstatus, bind, Except.bind] at h
    split at h
    · next createdAt updatedAt signature hstamps =>
      exact ⟨createdAt, updatedAt, signature, hstamps⟩
    · next hstamps =>
      simp [Record.noteAssigned, hstamps] at hnoted
    · exact absurd h (by simp [throw, throwThe, MonadExceptOf.throw])

/-- A prepared change that is written changes exactly one row of a keyed table, the row of the key
with the signature of the record. -/
theorem IsPrepared.exists_split {key : Key} {content : Content} {id : Value} {after : Supply}
    {bound : Parameters} {changed : Table}
    (h : IsPrepared store record supply key content id after bound) (hkeyed : table.IsKeyed)
    (hupdate : table.update? bound.kind bound.name bound.expected bound.change = some changed) :
    ∃ before row rest, table.rows = before ++ row :: rest ∧
      changed.rows = before ++ bound.change.apply row :: rest ∧
      Cell.ofText record.key.shown = .ok row.name ∧
      Cell.ofText id.shown = .ok (bound.change.apply row).signature ∧
      table.find? bound.kind bound.name = some row ∧ row.signature = bound.expected := by
  obtain ⟨before, row, rest, hrows, hexpected, hchanged⟩ := hkeyed.exists_split_of_update? hupdate
  rw [Table.isExpected, Bool.and_eq_true_iff, beq_iff_eq] at hexpected
  obtain ⟨hat, hsignature⟩ := hexpected
  have hmem : row ∈ table.rows := hrows ▸ List.mem_append_right _ List.mem_cons_self
  obtain ⟨hdrawn, -, hname, hbound⟩ := cells_of_parameters h.parameters_eq
  refine ⟨before, row, rest, hrows, hchanged, ?_, ?_, hkeyed.find?_of_mem hmem hat, ?_⟩
  · rw [← name_of_storageKey h.storageKey_eq, hname, (Row.isAt_iff.1 hat).2.2,
      Cell.asText_of_ofText hname]
  · rw [hdrawn]
    exact congrArg _ (Cell.asText_of_ofText hdrawn).symm
  · rwa [Cell.asText_of_ofText? hbound] at hsignature

end Store

/-! ## Typed records -/

namespace Blob

/-- The cell with the signature of a typed record. -/
def signatureCell (blob : Blob) : Cell := Cell.ofString? (blob.stamps.signature.map Uuid.text)

theorem signatureCell_eq {blob : Blob} {signature : Uuid}
    (h : blob.stamps.signature = some signature) : blob.signatureCell = .text signature.text := by
  rw [signatureCell, h]
  rfl

/-- A typed record with a new signature. -/
def signed (blob : Blob) (id : Uuid) : Blob :=
  { blob with stamps := { blob.stamps with signature := some id } }

/-- The change of a row that the update of a typed record writes. -/
def change (blob : Blob) (id : Uuid) : Table.Change :=
  ⟨.integer blob.status.code, Row.timeCell blob.stamps.updatedAt, .text id.text⟩

/-- The changed row of a typed record is the row of a typed record. -/
theorem apply_change (blob stored : Blob) (id : Uuid) (kind : String) (key : Uuid) :
    (blob.change id).apply (Row.ofBlob kind key stored) = Row.ofBlob kind key
      { stored with
        status := blob.status
        stamps := ⟨stored.stamps.createdAt, blob.stamps.updatedAt, some id⟩ } := by
  simp only [Table.Change.apply, change, Row.ofBlob, Row.timeCell, Cell.asText_ofString?,
    Cell.asInteger_integer, Cell.asText_text]
  rfl

end Blob

namespace Store

section Typed

variable {kind : String} {key id : Uuid} {blob : Blob} {table : Table} {supply after : Supply}

/-- The parameters of the update of a typed record. -/
def typedParameters (kind : String) (key id : Uuid) (blob : Blob) : Parameters :=
  ⟨blob.change id, .text kind, .text key.text, blob.signatureCell⟩

/-- The update of a typed record gets as far as the table, also after a number was assigned to the
status of the record. -/
theorem isPrepared_assigned {status : Value} {number : Int}
    (hstatus : status.toInteger = .ok number) (hfits : Cell.fits number = true)
    (hkey : blob.key = some key) (haware : blob.stamps.AreAware)
    (hid : supply.drawId = (.ok (.uuid id), after)) :
    IsPrepared ⟨.text kind⟩ { blob.toRecord with status } supply ⟨kind, key.text⟩
      { blob.content with status := number } (.uuid id) after
      { typedParameters kind key id blob with
        change := { blob.change id with status := .integer number } } where
  storageKey_eq := Blob.storageKey_toRecord hkey kind
  content_eq := Blob.content_assigned hstatus haware
  drawId_eq := hid
  parameters_eq := by
    have hnumber : Cell.ofInteger number = .ok (.integer number) := if_pos hfits
    simp only [parameters, hnumber, Value.spelled_uuid, Cell.ofText_ofString, Blob.content,
      Cell.ofText?_ofUuid?, bind, Except.bind, pure, Except.pure]
    rfl

/-- The update of a typed record gets as far as the table. -/
theorem isPrepared_toRecord (hkey : blob.key = some key) (haware : blob.stamps.AreAware)
    (hid : supply.drawId = (.ok (.uuid id), after)) :
    IsPrepared ⟨.text kind⟩ blob.toRecord supply ⟨kind, key.text⟩ blob.content (.uuid id) after
      (typedParameters kind key id blob) :=
  isPrepared_assigned (toInteger_status blob.status) blob.status.fits_code hkey haware hid

/-- Without an identifier the update of a typed record fails and changes nothing. -/
theorem update_of_drawId_error {fault : Fault} (hkey : blob.key = some key)
    (haware : blob.stamps.AreAware) (hid : supply.drawId = (.error fault, after))
    (table : Table) :
    (⟨.text kind⟩ : Store).update blob.toRecord table supply =
      { outcome := .error fault, table, log := [], record := blob.toRecord, supply := after } := by
  simp only [update, Blob.storageKey_toRecord hkey kind, Blob.content_toRecord haware, hid, bind,
    Except.bind, pure, Except.pure]

/-- **What the update of a typed record does**, by the row under its key: there is none, the row
carries another signature, or the row is changed and the record gets the drawn signature. -/
theorem update_toRecord (kind : String) (hkeyed : table.IsKeyed) (hkey : blob.key = some key)
    (haware : blob.stamps.AreAware) (hid : supply.drawId = (.ok (.uuid id), after)) :
    (table.rowOf kind key = none ∧
      (⟨.text kind⟩ : Store).update blob.toRecord table supply =
        { outcome := .error (.notFound (.uuid key)), table, log := [], record := blob.toRecord
          supply := after }) ∨
    (∃ row log, table.rowOf kind key = some row ∧ row.signature ≠ blob.signatureCell ∧
      (⟨.text kind⟩ : Store).update blob.toRecord table supply =
        { outcome := .error (.modified (.uuid key)), table, log, record := blob.toRecord
          supply := after }) ∨
    (∃ row changed log, table.rowOf kind key = some row ∧ row.signature = blob.signatureCell ∧
      table.update? (.text kind) (.text key.text) blob.signatureCell (blob.change id) =
        some changed ∧
      changed.IsKeyed ∧
      (∀ otherKind other, changed.rowOf otherKind other =
        if kind = otherKind ∧ key = other then some ((blob.change id).apply row)
        else table.rowOf otherKind other) ∧
      (⟨.text kind⟩ : Store).update blob.toRecord table supply =
        { outcome := .ok (), table := changed, log, record := (blob.signed id).toRecord
          supply := after }) := by
  have hheld := Blob.key_toRecord hkey
  have hstatus : Status.ofCode? blob.content.status = some blob.status :=
    Status.ofCode?_code blob.status
  have hcell : blob.signatureCell.asText = blob.signatureCell := Cell.asText_ofString? _
  have hprepared : IsPrepared ⟨.text kind⟩ blob.toRecord supply ⟨kind, key.text⟩ blob.content
      (.uuid id) after (typedParameters kind key id blob) := isPrepared_toRecord hkey haware hid
  -- The table decides: it has the row with the signature, another row there, or none.
  cases hchanged : table.update? (.text kind) (.text key.text) blob.signatureCell
      (blob.change id) with
  | some changed =>
    obtain ⟨row, hfound, hsignature⟩ :=
      hkeyed.update?_isSome_iff.1 (Option.isSome_iff_exists.2 ⟨changed, hchanged⟩)
    refine .inr (.inr ⟨row, changed, [entry .debug ("Updated blob ref " ++
      (⟨kind, key.text⟩ : Key).text ++ " to " ++ blob.status.name)], hfound,
      hsignature.trans hcell, rfl, hkeyed.update? hchanged, fun otherKind other => ?_, ?_⟩)
    · rw [Table.rowOf_updated hkeyed hchanged]
      have hfound : table.rowOf kind key = some row := hfound
      rw [hfound]
      rfl
    · exact (update_of_changed hprepared hchanged).trans (written_of_ends ⟨rfl, hstatus⟩)
  | none =>
    have hupdate := update_of_unchanged hprepared hchanged
    cases hfound : table.rowOf kind key with
    | none =>
      refine .inl ⟨rfl, hupdate.trans ?_⟩
      rw [← hheld]
      exact unwritten_of_none hfound
    | some row =>
      refine .inr (.inl ⟨row, [entry .warning ("Signature mismatch updating blob ref " ++
        (⟨kind, key.text⟩ : Key).text)], rfl, fun hsignature => ?_, hupdate.trans ?_⟩)
      · have hsome : (table.update? (.text kind) (.text key.text) blob.signatureCell
            (blob.change id)).isSome = true :=
          hkeyed.update?_isSome_iff.2 ⟨row, hfound, hsignature.trans hcell.symm⟩
        rw [hchanged] at hsome
        exact absurd hsome (by simp)
      · rw [← hheld]
        exact unwritten_of_some hfound

/-- The update of a record with a time that has no offset fails and changes nothing. -/
theorem update_of_not_areAware (hkey : blob.key = some key) (h : ¬blob.stamps.AreAware)
    (kind : String) (table : Table) (supply : Supply) :
    ∃ fault, (⟨.text kind⟩ : Store).update blob.toRecord table supply =
      { outcome := .error fault, table, log := [], record := blob.toRecord, supply } := by
  cases hcontent : blob.toRecord.content with
  | ok content => exact absurd (Blob.areAware_of_content hcontent) h
  | error fault =>
    refine ⟨fault, ?_⟩
    simp only [update, Blob.storageKey_toRecord hkey kind, hcontent, bind, Except.bind]

/-- The update of a typed record fails and changes nothing but the supply, or it changes the row
that carries the signature of the record. -/
theorem update_cases (kind : String) (hkeyed : table.IsKeyed) (hdistinct : supply.IsDistinct)
    (hkey : blob.key = some key) :
    (∃ fault log after, supply.LeadsTo after ∧
      (⟨.text kind⟩ : Store).update blob.toRecord table supply =
        { outcome := .error fault, table, log, record := blob.toRecord, supply := after }) ∨
    ∃ id after row changed log, blob.stamps.AreAware ∧
      supply.drawId = (.ok (.uuid id), after) ∧ table.rowOf kind key = some row ∧
      row.signature = blob.signatureCell ∧ changed.IsKeyed ∧
      (∀ otherKind other, changed.rowOf otherKind other =
        if kind = otherKind ∧ key = other then some ((blob.change id).apply row)
        else table.rowOf otherKind other) ∧
      (⟨.text kind⟩ : Store).update blob.toRecord table supply =
        { outcome := .ok (), table := changed, log, record := (blob.signed id).toRecord
          supply := after } := by
  by_cases haware : blob.stamps.AreAware
  · rcases hid : supply.drawId with ⟨fault | value, after⟩
    · exact .inl ⟨fault, [], after, .of_drawId hid, update_of_drawId_error hkey haware hid table⟩
    · obtain ⟨id, rfl, -⟩ := hdistinct.of_drawId hid
      rcases update_toRecord kind hkeyed hkey haware hid with
        ⟨-, hupdate⟩ | ⟨_, log, -, -, hupdate⟩ |
          ⟨row, changed, log, hfound, hsignature, -, hchanged, hrowOf, hupdate⟩
      · exact .inl ⟨_, [], after, .of_drawId hid, hupdate⟩
      · exact .inl ⟨_, log, after, .of_drawId hid, hupdate⟩
      · exact .inr ⟨id, after, row, changed, log, haware, rfl, hfound, hsignature, hchanged, hrowOf,
          hupdate⟩
  · obtain ⟨fault, hupdate⟩ := update_of_not_areAware hkey haware kind table supply
    exact .inl ⟨fault, [], supply, .refl supply, hupdate⟩

end Typed

end Store

end BlobCatalog
