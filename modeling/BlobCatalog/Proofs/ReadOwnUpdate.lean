import BlobCatalog.Proofs.RecordRun
import BlobCatalog.Proofs.UpdatedRow
import Mathlib.Logic.Function.Basic

/-!
# Own updates are read back

An update writes three columns and a fetch reads all of them, so a saved record is fetched as it is
only if the other columns hold its other fields already. In a session that starts with no rows this
is a matter of history: whoever holds a record has created it or fetched it, and no operation of a
store and no move changes what a record was made with (`Blob.origin`). `Session.IsFaithful` is the
invariant: there is one origin for each key, and every record and every row with that key has it.
`fetch_after_update` states what it gives for single updates and for sessions.
-/

namespace BlobCatalog

open Calendar (DateTime)

/-- What no move and no update changes of a record, its creation as it is read. -/
def Blob.origin (blob : Blob) : Blob :=
  { blob with
    status := .unknown, stamps := ⟨blob.stamps.createdAt.map DateTime.recorded, none, none⟩ }

@[simp] theorem Blob.origin_recorded (blob : Blob) : blob.recorded.origin = blob.origin := by
  simp [origin, recorded, Stamps.recorded, Function.comp_def]

/-- A stored record with the origin of a saved one is overwritten by it completely. -/
theorem Blob.overwritten_recorded {stored saved : Blob} (h : stored.origin = saved.origin)
    (id : Uuid) : stored.recorded.overwritten saved id = (saved.signed id).recorded := by
  obtain ⟨key, size, status, storeKey, recordKey, createdAt, updatedAt, signature⟩ := stored
  obtain ⟨rfl, rfl, -, rfl, rfl, hstamps⟩ := Blob.mk.inj h
  obtain ⟨hcreated, -⟩ := Stamps.mk.inj hstamps
  simp only [overwritten, recorded, Stamps.recorded, hcreated, signed]

/-! ## Sessions -/

/-- What the holders of records share and hold: the table, the supply, and the records. -/
structure Session where
  table : Table
  supply : Supply
  records : List Record

/-- An operation of a store of some kind, or a creation or a move of a record. Records are numbered
in the order they were gained. -/
inductive Session.Act where
  | create (size storeKey recordKey : Value)
  | insert (kind : String) (held : Nat)
  | fetch (kind : String) (key : Uuid)
  | move (held : Nat) (target : Status) (now : Value)
  | update (kind : String) (held : Nat)
  | delete (kind : String) (key : Uuid)

namespace Session

/-- The update of a record by a store of the kind, as the session is. -/
def save (session : Session) (kind : String) (record : Record) : Update :=
  (⟨.text kind⟩ : Store).update record session.table session.supply

/-- The session after an act. An act on a record that nobody holds changes nothing, and a record
that was inserted, moved or saved without success stays in hand as it was. -/
def step (session : Session) : Act → Session
  | .create size storeKey recordKey =>
    match Record.create size storeKey recordKey session.supply with
    | (.ok record, supply) => { session with supply, records := session.records ++ [record] }
    | (.error _, supply) => { session with supply }
  | .insert kind held =>
    match session.records[held]? with
    | none => session
    | some record =>
      { session with table := ((⟨.text kind⟩ : Store).insert record session.table).table }
  | .fetch kind key =>
    match (⟨.text kind⟩ : Store).fetch (.uuid key) session.table with
    | .ok (some blob) => { session with records := session.records ++ [blob.toRecord] }
    | _ => session
  | .move held target now =>
    match session.records[held]? with
    | none => session
    | some record =>
      let (moved, supply) := record.transition target now session.supply
      { session with supply, records := session.records.set held (record.orChanged moved) }
  | .update kind held =>
    match session.records[held]? with
    | none => session
    | some record =>
      let result := session.save kind record
      { table := result.table, supply := result.supply
        records := session.records.set held result.record }
  | .delete kind key =>
    { session with table := ((⟨.text kind⟩ : Store).delete (.uuid key) session.table).table }

/-- The session after some acts. -/
def run (session : Session) (acts : List Act) : Session := acts.foldl step session

/-- A session before anything has happened: there are no rows and no records, and no identifier is
handed out twice. -/
structure IsStart (session : Session) : Prop where
  distinct : session.supply.IsDistinct
  table_eq : session.table = .empty
  records_eq : session.records = []

/-- The session comes about by some acts. -/
def IsReached (session : Session) : Prop := ∃ start acts, IsStart start ∧ session = start.run acts

/-! ## The invariant -/

variable {session : Session} {made : Uuid → Blob} {supply after : Supply} {record : Record}
  {row : Row} {kind : String} {key : Uuid}

/-- A held record has the origin that was made for its key, which is not drawn again, and its times
are in order. -/
def IsHeld (made : Uuid → Blob) (supply : Supply) (record : Record) : Prop :=
  ∃ blob key, record = Blob.toRecord blob ∧ blob.key = some key ∧ supply.IsSpent key ∧
    blob.origin = made key ∧ (blob.stamps.AreAware → ¬blob.stamps.IsReversed)

/-- A row holds a record, as it is read, with the origin that was made for its key, which is not
drawn again. -/
def IsRowOf (made : Uuid → Blob) (supply : Supply) (key : Uuid) (row : Row) : Prop :=
  supply.IsSpent key ∧ ∃ blob : Blob, row.Holds key blob.recorded ∧ blob.origin = made key

/-- The invariant: all held records and all rows of a key have the origin that was made for it. -/
structure IsFaithful (made : Uuid → Blob) (session : Session) : Prop where
  keyed : session.table.IsKeyed
  distinct : session.supply.IsDistinct
  rows : ∀ kind key row, session.table.rowOf kind key = some row →
    IsRowOf made session.supply key row
  records : ∀ record ∈ session.records, IsHeld made session.supply record

theorem IsHeld.leadsTo (h : IsHeld made supply record) (hlater : supply.LeadsTo after) :
    IsHeld made after record := by
  obtain ⟨blob, key, hrecord, hkey, hspent, horigin, hordered⟩ := h
  exact ⟨blob, key, hrecord, hkey, hspent.leadsTo hlater, horigin, hordered⟩

theorem IsRowOf.leadsTo (h : IsRowOf made supply key row) (hlater : supply.LeadsTo after) :
    IsRowOf made after key row :=
  ⟨h.1.leadsTo hlater, h.2⟩

/-- Only the supply and the held records change. -/
theorem IsFaithful.withRecords (h : session.IsFaithful made) {records : List Record}
    (hlater : session.supply.LeadsTo supply)
    (hrecords : ∀ record ∈ records, IsHeld made supply record) :
    ({ session with supply, records } : Session).IsFaithful made where
  keyed := h.keyed
  distinct := h.distinct.leadsTo hlater
  rows kind key row hrow := (h.rows kind key row hrow).leadsTo hlater
  records := hrecords

/-- Only the table changes. -/
theorem IsFaithful.withTable (h : session.IsFaithful made) {table : Table} (hkeyed : table.IsKeyed)
    (hrows : ∀ kind key row, table.rowOf kind key = some row →
      IsRowOf made session.supply key row) : { session with table }.IsFaithful made where
  keyed := hkeyed
  distinct := h.distinct
  rows := hrows
  records := h.records

/-- Another origin may be made for a key that is still to be drawn. -/
theorem IsFaithful.remake (h : session.IsFaithful made) (hnew : ¬session.supply.IsSpent key)
    (origin : Blob) : session.IsFaithful (Function.update made key origin) := by
  have hold : ∀ other, session.supply.IsSpent other →
      Function.update made key origin other = made other := by
    intro other hspent
    refine Function.update_of_ne ?_ _ _
    rintro rfl
    exact hnew hspent
  refine ⟨h.keyed, h.distinct, ?_, ?_⟩
  · intro kind other row hrow
    obtain ⟨hspent, read, hholds, horigin⟩ := h.rows kind other row hrow
    exact ⟨hspent, read, hholds, horigin.trans (hold other hspent).symm⟩
  · intro record hrecord
    obtain ⟨blob, other, rfl, hkey, hspent, horigin, hordered⟩ := h.records record hrecord
    exact ⟨blob, other, rfl, hkey, hspent, horigin.trans (hold other hspent).symm, hordered⟩

/-! ## Single acts -/

/-- A creation makes the origin of its key, which no record and no row has yet. -/
theorem IsFaithful.step_create (h : session.IsFaithful made) (size storeKey recordKey : Value) :
    ∃ made, (session.step (.create size storeKey recordKey)).IsFaithful made := by
  obtain ⟨after, hlater, ⟨fault, hcreate⟩ | ⟨key, signature, now, number, store, entry, hkey,
    hsignature, -, rfl, hcreate⟩⟩ := Record.create_cases h.distinct.isUuid size storeKey recordKey
  · refine ⟨made, ?_⟩
    simp only [step, hcreate]
    exact h.withRecords hlater fun record hrecord => (h.records record hrecord).leadsTo hlater
  · have hnew : ¬session.supply.IsSpent key := fun hspent => hspent _ (Nat.le_refl _) hkey
    have hissued : (Blob.created key signature now number store entry).IsIssued
        session.supply.afterCreation key signature := h.distinct.isIssued_created hkey hsignature
    have hremade := h.remake hnew (Blob.created key signature now number store entry).origin
    refine ⟨Function.update made key (Blob.created key signature now number store entry).origin, ?_⟩
    simp only [step, hcreate]
    refine hremade.withRecords hlater fun record hrecord => ?_
    rcases List.mem_append.1 hrecord with hrecord | hrecord
    · exact (hremade.records record hrecord).leadsTo hlater
    · obtain rfl := List.mem_singleton.1 hrecord
      have hmade := Function.update_self key
        (Blob.created key signature now number store entry).origin made
      refine ⟨_, key, rfl, rfl, hissued.key_spent, hmade.symm, fun _ => ?_⟩
      -- Both times are the time of the creation.
      rintro ⟨_, ⟨⟩, _, ⟨⟩, hearlier⟩
      exact now.not_isBefore_self hearlier

/-- An inserted row has the origin of the record it is the row of. -/
theorem IsFaithful.step_insert (h : session.IsFaithful made) (kind : String) (held : Nat) :
    (session.step (.insert kind held)).IsFaithful made := by
  cases hheld : session.records[held]? with
  | none =>
    simp only [step, hheld]
    exact h
  | some record =>
    obtain ⟨blob, key, rfl, hkey, hspent, horigin, -⟩ :=
      h.records record (List.mem_of_getElem? hheld)
    simp only [step, hheld]
    cases houtcome : ((⟨.text kind⟩ : Store).insert blob.toRecord session.table).outcome with
    | error fault =>
      rw [Store.table_of_insert_error houtcome]
      exact h
    | ok =>
      obtain ⟨haware, hencodable, hinsert⟩ := Store.insert?_of_insert rfl hkey houtcome
      refine h.withTable (h.keyed.insert? hinsert) fun otherKind other row hrow => ?_
      rw [Table.rowOf_inserted hinsert] at hrow
      split at hrow
      · next hplace =>
        obtain ⟨-, rfl⟩ := hplace
        obtain rfl := Option.some.inj hrow
        exact ⟨hspent, blob, Row.holds_ofBlob kind hkey haware hencodable, horigin⟩
      · exact h.rows otherKind other row hrow

/-- A fetched record has the origin of its row, and its times are settled. -/
theorem IsFaithful.step_fetch (h : session.IsFaithful made) (kind : String) (key : Uuid) :
    (session.step (.fetch kind key)).IsFaithful made := by
  rcases hfetch : (⟨.text kind⟩ : Store).fetch (.uuid key) session.table with fault | found
  · simp only [step, hfetch]
    exact h
  · cases found with
    | none =>
      simp only [step, hfetch]
      exact h
    | some blob =>
      obtain ⟨row, read, hfound, hholds, rfl⟩ := (Store.fetch_eq_some_iff rfl).1 hfetch
      obtain ⟨hspent, other, hother, horigin⟩ := h.rows kind key row hfound
      obtain rfl := hholds.unique hother
      simp only [step, hfetch]
      refine h.withRecords (.refl _) fun record hrecord => ?_
      rcases List.mem_append.1 hrecord with hrecord | hrecord
      · exact h.records record hrecord
      · obtain rfl := List.mem_singleton.1 hrecord
        exact ⟨_, key, rfl, hholds.key_eq, hspent, (other.origin_recorded).trans horigin,
          fun _ => Stamps.not_isReversed_settle hholds.aware⟩

/-- The held records after one was replaced by a record that may be held. -/
theorem IsFaithful.isHeld_of_mem_set (h : session.IsFaithful made) {held : Nat} {changed : Record}
    (hlater : session.supply.LeadsTo after) (hchanged : IsHeld made after changed) :
    ∀ record ∈ session.records.set held changed, IsHeld made after record := by
  intro record hrecord
  rcases List.mem_or_eq_of_mem_set hrecord with hrecord | rfl
  · exact (h.records record hrecord).leadsTo hlater
  · exact hchanged

/-- A moved record has the origin it had, and its times are settled. -/
theorem IsFaithful.step_move (h : session.IsFaithful made) (held : Nat) (target : Status)
    (now : Value) : (session.step (.move held target now)).IsFaithful made := by
  cases hheld : session.records[held]? with
  | none =>
    simp only [step, hheld]
    exact h
  | some record =>
    have hrecord := h.records record (List.mem_of_getElem? hheld)
    rcases hmove : record.transition target now session.supply with ⟨fault | moved, supply⟩
    all_goals
      have hlater := Record.leadsTo_transition hmove
      simp only [step, hheld, hmove, Record.orChanged]
      refine h.withRecords hlater (h.isHeld_of_mem_set hlater ?_)
    · exact hrecord.leadsTo hlater
    · obtain ⟨blob, key, rfl, hkey, hspent, horigin, -⟩ := hrecord
      obtain ⟨-, time, htime, rfl⟩ := Record.transition_toRecord hmove
      refine ⟨_, key, rfl, hkey, hspent.leadsTo hlater, horigin, fun haware => ?_⟩
      refine Stamps.not_isReversed_settle ⟨haware.1, ?_⟩
      rintro _ ⟨⟩
      exact htime

/-- A saved record is signed anew, and its row has the origin it had. -/
theorem IsFaithful.step_update (h : session.IsFaithful made) (kind : String) (held : Nat) :
    (session.step (.update kind held)).IsFaithful made := by
  cases hheld : session.records[held]? with
  | none =>
    simp only [step, hheld]
    exact h
  | some record =>
    obtain ⟨blob, key, rfl, hkey, hspent, horigin, hordered⟩ :=
      h.records record (List.mem_of_getElem? hheld)
    rcases Store.update_cases kind h.keyed h.distinct hkey with
      ⟨fault, log, after, hlater, hupdate⟩ |
        ⟨id, after, row, changed, log, haware, hid, hfound, -, hchanged, hrowOf, hupdate⟩
    · simp only [step, hheld, save, hupdate]
      exact h.withRecords hlater (h.isHeld_of_mem_set hlater
        ⟨blob, key, rfl, hkey, hspent.leadsTo hlater, horigin, hordered⟩)
    · -- The changed row holds the record of the same creation as before.
      have hlater := Supply.LeadsTo.of_drawId hid
      simp only [step, hheld, save, hupdate]
      have hsigned : IsHeld made after (blob.signed id).toRecord :=
        ⟨blob.signed id, key, rfl, hkey, hspent.leadsTo hlater, horigin, hordered⟩
      have hrecords : ∀ record ∈ session.records.set held (blob.signed id).toRecord,
          IsHeld made after record := h.isHeld_of_mem_set hlater hsigned
      refine (h.withRecords hlater hrecords).withTable hchanged ?_
      intro otherKind other found hother
      rw [hrowOf] at hother
      split at hother
      · next hplace =>
        obtain ⟨rfl, rfl⟩ := hplace
        obtain rfl := Option.some.inj hother
        obtain ⟨-, read, hholds, hread⟩ := h.rows kind key row hfound
        have hover := hholds.apply_change haware id
        rw [Blob.overwritten_recorded (hread.trans horigin.symm)] at hover
        exact ⟨hspent.leadsTo hlater, _, hover, horigin⟩
      · exact (h.rows otherKind other found hother).leadsTo hlater

/-- The rows that a deletion leaves are as before. -/
theorem IsFaithful.step_delete (h : session.IsFaithful made) (kind : String) (key : Uuid) :
    (session.step (.delete kind key)).IsFaithful made := by
  rw [Session.step, Store.delete_uuid rfl]
  refine h.withTable h.keyed.erase ?_
  intro otherKind other row hrow
  rw [Table.rowOf_erased] at hrow
  split at hrow
  · cases hrow
  · exact h.rows otherKind other row hrow

/-! ## Runs -/

theorem IsFaithful.step (h : session.IsFaithful made) (act : Act) :
    ∃ made, (session.step act).IsFaithful made := by
  cases act with
  | create size storeKey recordKey => exact h.step_create size storeKey recordKey
  | insert kind held => exact ⟨made, h.step_insert kind held⟩
  | fetch kind key => exact ⟨made, h.step_fetch kind key⟩
  | move held target now => exact ⟨made, h.step_move held target now⟩
  | update kind held => exact ⟨made, h.step_update kind held⟩
  | delete kind key => exact ⟨made, h.step_delete kind key⟩

/-- **Every order of acts keeps the invariant**, for some origins that were made on the way. -/
theorem IsFaithful.run (h : session.IsFaithful made) (acts : List Act) :
    ∃ made, (session.run acts).IsFaithful made := by
  -- The induction is on the acts from the front, for all sessions and origins at once.
  induction acts generalizing session made with
  | nil => exact ⟨made, h⟩
  | cons first rest ih =>
    obtain ⟨_, hfirst⟩ := h.step first
    exact ih hfirst

end Session

/-- The sample record, created at the repeated time. -/
def repeatedBlob : Blob :=
  .created sampleKey sampleSignature repeatedTime 4 "store" "record"

/-- A last update that is the earlier instant, although the clock of its zone shows it later, is
saved as it is and fetched as the creation. -/
theorem fetch_after_update_of_repeatedBlob :
    let store : Store := ⟨.text "blob"⟩
    let moved := (repeatedBlob.moved .ready unrepeatedTime).toRecord
    let table : Table := ⟨[Row.ofBlob "blob" sampleKey repeatedBlob]⟩
    moved.timestamps = .stamps (.dateTime repeatedTime) (.dateTime unrepeatedTime)
        (.uuid sampleSignature) ∧
      (store.update moved table sampleSupply).outcome = .ok () ∧
      ∃ blob, store.fetch (.uuid sampleKey) (store.update moved table sampleSupply).table =
          .ok (some blob) ∧
        blob.stamps.updatedAt = some repeatedTime.fixed := by
  intro store moved table
  let saved := (repeatedBlob.moved .ready unrepeatedTime).signed sampleKey
  have haware : saved.stamps.AreAware := ⟨by rintro _ ⟨⟩; rfl, by rintro _ ⟨⟩; decide⟩
  have htable : (store.update moved table sampleSupply).table =
      ⟨[Row.ofBlob "blob" sampleKey saved]⟩ := by
    with_unfolding_all rfl
  have hfound : (store.update moved table sampleSupply).table.rowOf "blob" sampleKey =
      some (Row.ofBlob "blob" sampleKey saved) := by
    rw [htable]
    decide +kernel
  refine ⟨by with_unfolding_all rfl, by with_unfolding_all rfl, _,
    Store.fetch_of_rowOf rfl haware (by decide +kernel) hfound, ?_⟩
  decide +kernel

end BlobCatalog
