import BlobCatalog.Proofs.StoredRow

/-!
# A stored record is fetched back

`Store.insert` and `Store.fetch` on typed records, described by the row that the record is stored
as. An insertion succeeds exactly when no row has the kind of the store and the text of the key and
neither the kind nor a text of the record holds a surrogate. What a store of that kind fetches
afterwards is the record itself; only a last update before the creation is raised to it
(`fetch_after_insert`). Nothing is asked of the rows already in the table.
-/

namespace BlobCatalog

open Calendar (DateTime)

/-- There is no row of a kind that cannot be encoded. -/
theorem Row.ofContent_of_not_isString {kind : Text} (hkind : ¬kind.IsString)
    (name : Text) (content : Content) :
    Row.ofContent ⟨kind, name⟩ content = .error .unencodable := by
  rw [Row.ofContent, Cell.ofText_of_not_isString hkind]
  rfl

namespace Store

variable {kind : String} {key : Uuid} {blob : Blob} {table : Table} {store : Store}

/-! ## Inserting -/

/-- An insertion of a record that has a row adds that row, if its place is free. -/
theorem insert_of_row {record : Record} {key : Key} {content : Content} {row : Row}
    (hkey : record.storageKey store.kind = .ok key) (hcontent : record.content = .ok content)
    (hrow : Row.ofContent key content = .ok row) :
    store.insert record table =
      match table.insert? row with
      | none => ⟨.error (.alreadyExists record.key), table, []⟩
      | some changed => ⟨.ok (), changed, [entry .debug ("Created blob ref " ++ key.text)]⟩ := by
  cases hinsert : table.insert? row with
  | none => simp only [insert, hkey, hcontent, hrow, hinsert, bind, Except.bind, pure, Except.pure]
  | some changed =>
    simp only [insert, hkey, hcontent, hrow, hinsert, bind, Except.bind, pure, Except.pure]

/-- A record whose row is refused is not inserted. -/
theorem insert_of_row_error {record : Record} {key : Key} {content : Content} {fault : Fault}
    (hkey : record.storageKey store.kind = .ok key) (hcontent : record.content = .ok content)
    (hrow : Row.ofContent key content = .error fault) :
    store.insert record table = ⟨.error fault, table, []⟩ := by
  simp only [insert, hkey, hcontent, hrow, bind, Except.bind]

/-- What an insertion can do: fail and leave the table alone, or add the row of the record. -/
theorem insert_cases (store : Store) (record : Record) (table : Table) :
    (∃ fault, store.insert record table = ⟨.error fault, table, []⟩) ∨
      ∃ key content row changed, record.storageKey store.kind = .ok key ∧
        record.content = .ok content ∧ Row.ofContent key content = .ok row ∧
        table.insert? row = some changed ∧
        store.insert record table =
          ⟨.ok (), changed, [entry .debug ("Created blob ref " ++ key.text)]⟩ := by
  cases hkey : record.storageKey store.kind with
  | error fault => exact .inl ⟨fault, by simp [insert, hkey, bind, Except.bind]⟩
  | ok key =>
    cases hcontent : record.content with
    | error fault => exact .inl ⟨fault, by simp [insert, hkey, hcontent, bind, Except.bind]⟩
    | ok content =>
      cases hrow : Row.ofContent key content with
      | error fault => exact .inl ⟨fault, insert_of_row_error hkey hcontent hrow⟩
      | ok row =>
        rw [insert_of_row hkey hcontent hrow]
        cases hinsert : table.insert? row with
        | none => exact .inl ⟨_, rfl⟩
        | some changed => exact .inr ⟨key, content, row, changed, rfl, rfl, hrow, hinsert, rfl⟩

/-- An insertion of a typed record that succeeds has added the row of the record, which could be
written and encoded. -/
theorem insert?_of_insert (hstore : store.kind = .text kind) (hkey : blob.key = some key)
    (h : (store.insert blob.toRecord table).outcome = .ok ()) :
    blob.stamps.AreAware ∧ blob.IsEncodable ∧
      table.insert? (Row.ofBlob kind key blob) = some (store.insert blob.toRecord table).table := by
  rcases insert_cases store blob.toRecord table with
    ⟨fault, heq⟩ | ⟨place, content, row, changed, hplace, hcontent, hrow, hinsert, heq⟩
  · rw [heq] at h
    exact absurd h (by simp)
  · have haware := Blob.areAware_of_content hcontent
    rw [hstore, Blob.storageKey_toRecord hkey, Except.ok.injEq] at hplace
    rw [Blob.content_toRecord haware, Except.ok.injEq] at hcontent
    rw [← hplace, ← hcontent, Row.ofContent_content] at hrow
    split at hrow
    · split at hrow
      · next hencodable =>
        rw [Except.ok.injEq] at hrow
        rw [heq, hrow, hinsert]
        exact ⟨haware, hencodable, rfl⟩
      · exact absurd hrow (by simp)
    · exact absurd hrow (by simp)

/-- An insertion that fails leaves the table alone. -/
theorem table_of_insert_error {record : Record} {fault : Fault}
    (h : (store.insert record table).outcome = .error fault) :
    (store.insert record table).table = table := by
  rcases insert_cases store record table with ⟨_, heq⟩ | ⟨_, _, _, _, _, _, _, _, heq⟩
  · rw [heq]
  · rw [heq] at h
    exact absurd h (by simp)

/-- What the insertion of a typed record comes to: its size is no integer of 64 bits, a text of it
cannot be encoded, its place is taken, or its row is added. -/
theorem insert_toRecord_cases (kind : String) (hkey : blob.key = some key)
    (haware : blob.stamps.AreAware) (table : Table) :
    (¬blob.size < Nat.pow 2 63 ∧
      (⟨.text kind⟩ : Store).insert blob.toRecord table = ⟨.error .outOfRange, table, []⟩) ∨
    (blob.size < Nat.pow 2 63 ∧ ¬blob.IsEncodable ∧
      (⟨.text kind⟩ : Store).insert blob.toRecord table = ⟨.error .unencodable, table, []⟩) ∨
    (blob.size < Nat.pow 2 63 ∧ blob.IsEncodable ∧
      table.insert? (Row.ofBlob kind key blob) = none ∧
      (⟨.text kind⟩ : Store).insert blob.toRecord table =
        ⟨.error (.alreadyExists (.uuid key)), table, []⟩) ∨
    (blob.size < Nat.pow 2 63 ∧ blob.IsEncodable ∧ ∃ changed log,
      table.insert? (Row.ofBlob kind key blob) = some changed ∧
      (⟨.text kind⟩ : Store).insert blob.toRecord table = ⟨.ok (), changed, log⟩) := by
  have hplace : blob.toRecord.storageKey (⟨.text kind⟩ : Store).kind = .ok ⟨kind, key.text⟩ :=
    Blob.storageKey_toRecord hkey kind
  have hcontent := Blob.content_toRecord haware
  have hrow := Row.ofContent_content kind key blob
  -- The size is bound before the texts, so it is the one at fault if both cannot be bound.
  by_cases hsize : blob.size < Nat.pow 2 63
  · rw [if_pos (Cell.fits_natCast_iff.2 hsize)] at hrow
    by_cases hencodable : blob.IsEncodable
    · rw [if_pos hencodable] at hrow
      have hinsert : (⟨.text kind⟩ : Store).insert blob.toRecord table = _ :=
        insert_of_row hplace hcontent hrow
      rw [Blob.key_toRecord hkey] at hinsert
      cases hchanged : table.insert? (Row.ofBlob kind key blob) with
      | none =>
        rw [hchanged] at hinsert
        exact .inr (.inr (.inl ⟨hsize, hencodable, rfl, hinsert⟩))
      | some changed =>
        rw [hchanged] at hinsert
        exact .inr (.inr (.inr ⟨hsize, hencodable, changed, _, rfl, hinsert⟩))
    · rw [if_neg hencodable] at hrow
      exact .inr (.inl ⟨hsize, hencodable, insert_of_row_error hplace hcontent hrow⟩)
  · rw [if_neg (mt Cell.fits_natCast_iff.1 hsize)] at hrow
    exact .inl ⟨hsize, insert_of_row_error hplace hcontent hrow⟩

/-- A store whose kind cannot be encoded inserts no record. -/
theorem insert_of_not_isString {kind : Text} (hkind : ¬kind.IsString) (hkey : blob.key = some key)
    (table : Table) :
    ∃ fault, (blob.stamps.AreAware → fault = .unencodable) ∧
      (⟨.text kind⟩ : Store).insert blob.toRecord table = ⟨.error fault, table, []⟩ := by
  have hplace := Blob.storageKey_toRecord hkey kind
  cases hcontent : blob.toRecord.content with
  | error fault =>
    refine ⟨fault, fun haware => ?_, ?_⟩
    · rw [Blob.content_toRecord haware] at hcontent
      exact absurd hcontent (by simp)
    · simp only [insert, hplace, hcontent, bind, Except.bind]
  | ok content =>
    have hrow := Row.ofContent_of_not_isString hkind key.text content
    exact ⟨.unencodable, fun _ => rfl, insert_of_row_error hplace hcontent hrow⟩

/-! ## Deleting -/

/-- A store deletes the row under its kind and the key. -/
theorem delete_uuid (hstore : store.kind = .text kind) (key : Uuid) (table : Table) :
    store.delete (.uuid key) table =
      ⟨.ok (), table.erase (.text kind) (.text key.text),
        [entry .debug ("Deleted blob ref " ++ kind ++ "/" ++ key.text)]⟩ := by
  have hkind : Cell.ofValue (.text kind) = .ok (.text kind) := Cell.ofText_ofString kind
  simp only [delete, hstore, Value.spelled_uuid, Value.shown, hkind, Cell.ofText_ofString, bind,
    Except.bind, pure, Except.pure]

/-! ## Fetching -/

/-- A store fetches the record of the row under its kind and the key. -/
theorem fetch_uuid (hstore : store.kind = .text kind) (key : Uuid) (table : Table) :
    store.fetch (.uuid key) table =
      match table.rowOf kind key with
      | some row => row.toBlob.map some
      | none => .ok none := by
  have hkind : Cell.ofValue (.text kind) = .ok (.text kind) := Cell.ofText_ofString kind
  simp only [fetch, hstore, Table.rowOf, Value.spelled_uuid, hkind, Cell.ofText_ofString, bind,
    Except.bind]
  cases table.find? (.text kind) (.text key.text) with
  | none => rfl
  | some row => cases row.toBlob <;> rfl

/-- The row of a record is fetched as that record, its times as they are read and settled. -/
theorem fetch_of_rowOf (hstore : store.kind = .text kind) (haware : blob.stamps.AreAware)
    (hencodable : blob.IsEncodable)
    (h : table.rowOf kind key = some (Row.ofBlob kind key blob)) :
    store.fetch (.uuid key) table =
      .ok (some { blob with key := some key, stamps := blob.stamps.recorded.settle }) := by
  rw [fetch_uuid hstore, h]
  simp [Row.toBlob_ofBlob kind key haware hencodable, Except.map]

end Store

/-! ## The round trip -/

namespace Calendar.DateTime

variable {left right : DateTime}

theorem sharesZone_of_left (h : left.zone = none) : left.sharesZone right = false := by
  simp [sharesZone, h]

theorem sharesZone_of_right (h : right.zone = none) : left.sharesZone right = false := by
  cases hzone : left.zone <;> simp [sharesZone, h, hzone]

/-- No time is before itself. -/
theorem not_isBefore_self (time : DateTime) : ¬time.IsBefore time := by
  unfold IsBefore
  split <;> exact Int.lt_irrefl _

end Calendar.DateTime

namespace Stamps

/-- The last update is before the creation. -/
def IsReversed (stamps : Stamps) : Prop :=
  ∃ created ∈ stamps.createdAt, ∃ updated ∈ stamps.updatedAt, updated.IsBefore created

/-- The last update is an earlier instant than the creation. -/
def HasEarlierUpdate (stamps : Stamps) : Prop :=
  ∃ created ∈ stamps.createdAt, ∃ updated ∈ stamps.updatedAt, updated.instant < created.instant

/-- The two times stand in one zone. -/
def ShareZone (stamps : Stamps) : Prop :=
  ∃ created ∈ stamps.createdAt, ∃ updated ∈ stamps.updatedAt, updated.sharesZone created = true

/-- Instants decide the order of times that do not stand in one zone. -/
theorem isReversed_iff {stamps : Stamps} (h : ¬stamps.ShareZone) :
    stamps.IsReversed ↔ stamps.HasEarlierUpdate := by
  have hinstants : ∀ created ∈ stamps.createdAt, ∀ updated ∈ stamps.updatedAt,
      (updated.IsBefore created ↔ updated.instant < created.instant) := by
    intro created hcreated updated hupdated
    have hzone : ¬updated.sharesZone created = true := fun hshared =>
      h ⟨created, hcreated, updated, hupdated, hshared⟩
    rw [DateTime.IsBefore, if_neg hzone]
  constructor
  · rintro ⟨created, hcreated, updated, hupdated, hbefore⟩
    exact ⟨created, hcreated, updated, hupdated,
      (hinstants created hcreated updated hupdated).1 hbefore⟩
  · rintro ⟨created, hcreated, updated, hupdated, hearlier⟩
    exact ⟨created, hcreated, updated, hupdated,
      (hinstants created hcreated updated hupdated).2 hearlier⟩

/-- The times are in no zone. -/
def AreFixed (stamps : Stamps) : Prop :=
  (∀ time ∈ stamps.createdAt, time.zone = none) ∧ ∀ time ∈ stamps.updatedAt, time.zone = none

/-- Instants decide the order of times in no zone. -/
theorem AreFixed.isReversed_iff {stamps : Stamps} (h : stamps.AreFixed) :
    stamps.IsReversed ↔ stamps.HasEarlierUpdate := by
  refine Stamps.isReversed_iff ?_
  rintro ⟨created, hcreated, updated, -, hshared⟩
  rw [DateTime.sharesZone_of_right (h.1 created hcreated)] at hshared
  exact Bool.false_ne_true hshared

theorem areFixed_recorded (stamps : Stamps) : stamps.recorded.AreFixed := by
  have hzone : ∀ time : Option DateTime, ∀ value ∈ time.map DateTime.recorded,
      value.zone = none := by
    intro time value hvalue
    obtain ⟨held, -, rfl⟩ := Option.map_eq_some_iff.1 hvalue
    rfl
  exact ⟨hzone _, hzone _⟩

/-- Settling takes no time into a zone. -/
theorem AreFixed.settle {stamps : Stamps} (h : stamps.AreFixed) : stamps.settle.AreFixed :=
  ⟨h.1, forall_settle h.1 h.2⟩

/-- Instants decide the order of times with fixed offsets. -/
theorem isReversed_fixed_iff {stamps : Stamps} :
    stamps.fixed.IsReversed ↔ stamps.HasEarlierUpdate := by
  constructor
  · rintro ⟨_, hfirst, _, hlast, hearlier⟩
    obtain ⟨created, hcreated, rfl⟩ := Option.map_eq_some_iff.1 hfirst
    obtain ⟨updated, hupdated, rfl⟩ := Option.map_eq_some_iff.1 hlast
    exact ⟨created, hcreated, updated, hupdated, hearlier⟩
  · rintro ⟨created, hcreated, updated, hupdated, hearlier⟩
    exact ⟨_, Option.map_eq_some_iff.2 ⟨created, hcreated, rfl⟩, _,
      Option.map_eq_some_iff.2 ⟨updated, hupdated, rfl⟩, hearlier⟩

/-- A last update before the creation is raised to it. -/
theorem settle_of_isReversed {stamps : Stamps} (haware : stamps.AreAware)
    (h : stamps.IsReversed) : stamps.settle = { stamps with updatedAt := stamps.createdAt } := by
  obtain ⟨created, hcreated, updated, hupdated, hearlier⟩ := h
  have hbound := haware.1 created hcreated
  simp only [Option.mem_def] at hcreated hupdated
  simp [settle, hcreated, hupdated, DateTime.notBefore, hbound, hearlier]

/-- Stamps in order are settled. -/
theorem settle_of_not_isReversed {stamps : Stamps} (h : ¬stamps.IsReversed) :
    stamps.settle = stamps := by
  obtain ⟨createdAt, updatedAt, signature⟩ := stamps
  cases createdAt with
  | none => cases updatedAt <;> rfl
  | some created =>
    cases updatedAt with
    | none => rfl
    | some updated =>
      have hlater : ¬updated.IsBefore created := fun hearlier =>
        h ⟨created, rfl, updated, rfl, hearlier⟩
      simp [settle, DateTime.notBefore, hlater]

/-- Settled stamps are in order. -/
theorem not_isReversed_settle {stamps : Stamps} (haware : stamps.AreAware) :
    ¬stamps.settle.IsReversed := by
  by_cases hreversed : stamps.IsReversed
  · rw [settle_of_isReversed haware hreversed]
    rintro ⟨created, hcreated, updated, hupdated, hearlier⟩
    obtain rfl : created = updated := Option.some.inj (hcreated.symm.trans hupdated)
    exact created.not_isBefore_self hearlier
  · rw [settle_of_not_isReversed hreversed]
    exact hreversed

/-- Stamps that are read from a row are in order as instants. -/
theorem not_hasEarlierUpdate_recorded {stamps : Stamps} (haware : stamps.AreAware) :
    ¬stamps.recorded.settle.HasEarlierUpdate := by
  rw [← stamps.areFixed_recorded.settle.isReversed_iff]
  exact not_isReversed_settle haware.recorded

end Stamps

/-- An added row is found under its kind and key, which had no row before. -/
theorem Table.insert?_ofBlob (table : Table) (kind : String) (key : Uuid) (blob : Blob) :
    table.insert? (Row.ofBlob kind key blob) =
      if table.rowOf kind key = none then some ⟨table.rows ++ [Row.ofBlob kind key blob]⟩
      else none :=
  Table.insert?_eq (Row.stored_ofBlob kind key blob) (Row.isComplete_ofBlob kind key blob)

/-- **A record that can be stored is fetched back.** Its insertion succeeds exactly when the kind
and the texts of the record are strings and no row has the kind and the text of the key, and
otherwise leaves the table alone. After a success every store of the kind fetches the record under
its key, with the last update raised to the creation if it was the earlier instant, and otherwise as
it was. The times that are fetched have the offsets of the record's times as fixed ones; only an
offset of less than a second is not kept. -/
theorem fetch_after_insert (kind : Text) (key : Uuid) (blob : Blob) (table : Table)
    (store : Store) (hstore : store.kind = .text kind) (hkey : blob.key = some key)
    (haware : blob.stamps.AreAware) (hsize : blob.size < Nat.pow 2 63) :
    ((store.insert blob.toRecord table).outcome = .ok () ↔
      (kind.IsString ∧ blob.IsEncodable) ∧
        ∀ row ∈ table.rows, ¬(row.kind = .text kind.string ∧ row.name = .text key.text)) ∧
    ((store.insert blob.toRecord table).outcome ≠ .ok () →
      (store.insert blob.toRecord table).outcome =
          .error (if kind.IsString ∧ blob.IsEncodable then .alreadyExists (.uuid key)
            else .unencodable) ∧
        (store.insert blob.toRecord table).table = table) ∧
    ((store.insert blob.toRecord table).outcome = .ok () →
      blob.stamps.KeepOffsets → ∀ other : Store, other.kind = .text kind →
        (blob.stamps.HasEarlierUpdate →
          other.fetch (.uuid key) (store.insert blob.toRecord table).table =
            .ok (some { blob with
              stamps := { blob.stamps.fixed with updatedAt := blob.stamps.fixed.createdAt } })) ∧
        (¬blob.stamps.HasEarlierUpdate →
          other.fetch (.uuid key) (store.insert blob.toRecord table).table =
            .ok (some { blob with stamps := blob.stamps.fixed }))) := by
  obtain rfl : store = ⟨.text kind⟩ := congrArg Store.mk hstore
  -- A kind that is no string cannot be bound; a string is the kind of rows.
  by_cases hkind : kind.IsString
  · obtain ⟨kind, rfl⟩ : ∃ content : String, kind = content := ⟨_, Text.isString_iff.1 hkind⟩
    simp only [Text.isString_ofString, Text.string_ofString, true_and]
    rw [← Table.rowOf_eq_none_iff]
    have hfree := Table.insert?_ofBlob table kind key blob
    rcases Store.insert_toRecord_cases kind hkey haware table with
      ⟨hlarge, -⟩ | ⟨-, hencodable, heq⟩ | ⟨-, hencodable, hinsert, heq⟩ |
        ⟨-, hencodable, changed, log, hinsert, heq⟩
    · exact absurd hsize hlarge
    · simp [heq, hencodable]
    · have htaken : table.rowOf kind key ≠ none := fun hnone => by
        rw [hinsert, if_pos hnone] at hfree
        cases hfree
      simp [heq, hencodable, htaken]
    · have hnone : table.rowOf kind key = none := by
        by_contra hsome
        rw [hinsert, if_neg hsome] at hfree
        cases hfree
      have hfound := Table.rowOf_insert? hinsert key
      rw [if_pos rfl] at hfound
      simp only [heq, hencodable, hnone]
      refine ⟨by simp, by simp, fun _ hkept other hother => ?_⟩
      have hfixed : blob.stamps.fixed.AreAware := Stamps.recorded_eq hkept ▸ haware.recorded
      rw [Store.fetch_of_rowOf hother haware hencodable hfound, ← hkey, Stamps.recorded_eq hkept,
        ← Stamps.isReversed_fixed_iff]
      exact ⟨fun hreversed => by rw [Stamps.settle_of_isReversed hfixed hreversed],
        fun hordered => by rw [Stamps.settle_of_not_isReversed hordered]⟩
  · obtain ⟨fault, hfault, heq⟩ := Store.insert_of_not_isString hkind hkey table
    simp [heq, hfault haware, hkind]

/-! A record with a numeric text, a text outside ASCII, an offset with odd seconds and a last update
before its creation. -/

/-- The key of the sample record. -/
def sampleKey : Uuid := ⟨1, by decide⟩

/-- The signature of the sample record. -/
def sampleSignature : Uuid := ⟨2, by decide⟩

/-- The sample record was created at this time. -/
def sampleTime : DateTime where
  date := ⟨2024, 2, 29, by decide⟩
  hour := 3
  minute := 4
  second := 5
  micro := 6
  offset := some (-3723000000)
  isClock := by decide
  isOffset := by decide

/-- The sample time by a clock with another offset. -/
def sampleTimeAt (offset : Int) (h : offset.natAbs < Calendar.daySeconds * Calendar.secondMicros) :
    DateTime :=
  { sampleTime with offset := some offset, isOffset := by rintro _ ⟨⟩; exact h }

/-- In the night in which the clocks of New York go back, the clock shows this time for the second
time. -/
def repeatedTime : DateTime where
  date := ⟨2024, 11, 3, by decide⟩
  hour := 1
  minute := 30
  second := 0
  micro := 0
  offset := some (-18000000000)
  isClock := by decide
  isOffset := by decide
  zone := some ⟨"America/New_York", true, true⟩

/-- The clock shows this time for the first time, a quarter of an hour on and three quarters of an
hour ago. -/
def unrepeatedTime : DateTime :=
  { repeatedTime with
    minute := 45
    isClock := by decide
    offset := some (-14400000000)
    isOffset := by decide
    zone := some ⟨"America/New_York", false, true⟩ }

/-- In one zone an earlier instant is not always before. -/
theorem not_isBefore_repeatedTime :
    ¬unrepeatedTime.IsBefore repeatedTime ∧ unrepeatedTime.instant < repeatedTime.instant := by
  decide

/-- A clock that stands still at the sample time, and the identifiers 1, 2, 3, …. -/
def sampleSupply : Supply := .start (fun _ => some sampleTime) Supply.numbered

/-- The sample record, last updated a second before its creation. -/
def sampleBlob : Blob where
  key := some sampleKey
  size := 9223372036854775807
  status := .ready
  storeKey := "007"
  recordKey := "Größe"
  stamps := ⟨some sampleTime, some { sampleTime with second := 4, isClock := by decide },
    some sampleSignature⟩

theorem areAware_sampleBlob : sampleBlob.stamps.AreAware :=
  ⟨by rintro _ ⟨⟩; rfl, by rintro _ ⟨⟩; rfl⟩

theorem keepOffsets_sampleBlob : sampleBlob.stamps.KeepOffsets := by
  constructor <;>
  · rintro _ ⟨⟩ _ ⟨⟩ -
    decide

theorem fetch_sampleBlob :
    (⟨.text "blob"⟩ : Store).fetch (.uuid sampleKey)
        ((⟨.text "blob"⟩ : Store).insert sampleBlob.toRecord .empty).table =
      .ok (some { sampleBlob with
        stamps := { sampleBlob.stamps with updatedAt := some sampleTime } }) := by
  obtain ⟨hfree, -, hfetch⟩ := fetch_after_insert "blob" sampleKey sampleBlob .empty
    ⟨.text "blob"⟩ rfl rfl areAware_sampleBlob (by decide)
  have hinsert := hfree.2 ⟨by decide, fun row hrow => absurd hrow List.not_mem_nil⟩
  exact (hfetch hinsert keepOffsets_sampleBlob ⟨.text "blob"⟩ rfl).1 ⟨_, rfl, _, rfl, by decide⟩

/-- The surrogate that stands for the byte 255. -/
def sampleSurrogate : Text := ⟨[.surrogate ⟨0x4ff, by decide⟩]⟩

/-- A record that belongs to a store whose name is a surrogate. -/
def surrogateBlob : Blob := { sampleBlob with storeKey := sampleSurrogate }

/-- A record with a surrogate in a text is not inserted, although no row is in its place. -/
theorem not_inserted_surrogateBlob :
    (surrogateBlob.key = some sampleKey ∧ surrogateBlob.stamps.AreAware ∧
      surrogateBlob.size < Nat.pow 2 63) ∧
    (∀ row ∈ Table.empty.rows, ¬(row.kind = .text "blob" ∧ row.name = .text sampleKey.text)) ∧
    ((⟨.text "blob"⟩ : Store).insert surrogateBlob.toRecord .empty).outcome =
      .error .unencodable := by
  have hkeyed : surrogateBlob.key = some sampleKey := rfl
  have haware : surrogateBlob.stamps.AreAware := areAware_sampleBlob
  have hsize : surrogateBlob.size < Nat.pow 2 63 := by decide
  refine ⟨⟨hkeyed, haware, hsize⟩, fun row hrow => absurd hrow List.not_mem_nil, ?_⟩
  rcases Store.insert_toRecord_cases "blob" hkeyed haware .empty with
    ⟨hlarge, -⟩ | ⟨-, -, heq⟩ | ⟨-, hencodable, -⟩ | ⟨-, hencodable, -⟩
  · exact absurd hsize hlarge
  · rw [heq]
  · exact absurd hencodable (by decide)
  · exact absurd hencodable (by decide)

end BlobCatalog
