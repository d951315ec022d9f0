import BlobCatalog.Command.Request
import BlobCatalog.Proofs.StoreRoundTrip
import BlobCatalog.Proofs.TypedLifecycle
import BlobCatalog.Proofs.UpdateOutcome

/-!
# A record from its creation on

What a holder can do with a created record, in any order and with any outcome (`Deed`). No deed
checks the order of the two times by itself: creation, moves, refreshes and reading all raise the
last update to the creation, and the other deeds leave it alone. `Blob.IsVersion` says what every
record of such a run has in common with the created one. Each deed keeps it and takes the status
along the lifecycle (`Blob.IsVersion.after`), and so does a whole run (`Record.run_isVersion`).

The order of two times that stand in one zone is that of the clock there (`Stamps.AreOrdered`). So
the last update may be an earlier instant than the creation in a night in which clocks go back
(`Record.hasEarlierUpdate_after_move`).
-/

namespace BlobCatalog

open Calendar (DateTime)

/-! ## Deeds -/

/-- Something that the holder of a record does with it. A store may be any store, with any table and
any identifiers at that moment. -/
inductive Deed where
  | move (chosen : Move) (now : Value) (supply : Supply)
  | touch (now : Value)
  | assign (field : String) (fixed : field ∈ Record.frozenFields) (value : Value)
  | reload
  | insert (store : Store) (table : Table)
  | update (store : Store) (table : Table) (supply : Supply)

namespace Record

/-- The changed record, or the record as it is if the change failed. -/
def orChanged (record : Record) : Except Fault Record → Record
  | .ok changed => changed
  | .error _ => record

/-- The record that its holder has after a deed, successful or not. An insertion gives the record
back, and an update may have signed it. -/
def after (record : Record) : Deed → Record
  | .move chosen now supply => record.orChanged (record.transition chosen.target now supply).1
  | .touch now => record.orChanged (record.touch now)
  | .assign field _ value => record.orChanged (record.assign field value)
  | .reload => record.orChanged (record.reload.map Blob.toRecord)
  | .insert _ _ => record
  | .update store table supply => (store.update record table supply).record

/-- The record that its holder has after some deeds. -/
def run (record : Record) (deeds : List Deed) : Record := deeds.foldl after record

theorem run_append (record : Record) (deeds more : List Deed) :
    record.run (deeds ++ more) = (record.run deeds).run more :=
  List.foldl_append

end Record

/-! ## Versions of a created record -/

/-- The last update is not before the creation: not by the clock of the zone if the two times stand
in one, not as instants otherwise. -/
def Stamps.AreOrdered (stamps : Stamps) : Prop :=
  ∀ created ∈ stamps.createdAt, ∀ updated ∈ stamps.updatedAt,
    (updated.sharesZone created = true → created.localMicros ≤ updated.localMicros) ∧
    (updated.sharesZone created = false → created.instant ≤ updated.instant)

theorem Stamps.areOrdered_iff {stamps : Stamps} : stamps.AreOrdered ↔ ¬stamps.IsReversed := by
  have hbefore : ∀ created updated : DateTime,
      ((updated.sharesZone created = true → created.localMicros ≤ updated.localMicros) ∧
        (updated.sharesZone created = false → created.instant ≤ updated.instant)) ↔
          ¬updated.IsBefore created := by
    intro created updated
    cases hzone : updated.sharesZone created <;> simp [DateTime.IsBefore, hzone]
  constructor
  · rintro hordered ⟨created, hcreated, updated, hupdated, hreversed⟩
    exact (hbefore created updated).1 (hordered created hcreated updated hupdated) hreversed
  · intro hnone created hcreated updated hupdated
    exact (hbefore created updated).2 fun hreversed =>
      hnone ⟨created, hcreated, updated, hupdated, hreversed⟩

namespace Blob

variable {origin : Blob} {status : Status} {record : Record}

/-- A record in another status and with another last update. -/
def version (origin : Blob) (status : Status) (updated : DateTime) : Blob :=
  { origin with status, stamps := { origin.stamps with updatedAt := some updated } }

/-- A record that differs from the original in its status, its last update and its signature only.
Its times have offsets and are in order. -/
def IsVersion (origin : Blob) (status : Status) (record : Record) : Prop :=
  ∃ updated signature,
    record = (origin.version status updated).toRecord.withSignature signature ∧
      (origin.version status updated).stamps.AreAware ∧
      (origin.version status updated).stamps.AreOrdered

/-- A version stamped anew at a time with an offset is a version. -/
theorem isVersion_moved {updated now : DateTime}
    (haware : (origin.version status updated).stamps.AreAware) (hnow : now.isAware = true)
    (target : Status) (signature : Value) :
    origin.IsVersion target
      (((origin.version status updated).moved target now).toRecord.withSignature signature) := by
  have hstamps : ((origin.version status updated).moved target now).stamps.AreAware :=
    Blob.areAware_moved haware hnow target
  have hordered : ((origin.version status updated).moved target now).stamps.AreOrdered := by
    refine Stamps.areOrdered_iff.2 (Stamps.not_isReversed_settle ?_)
    exact ⟨haware.1, by rintro _ ⟨⟩; exact hnow⟩
  exact ⟨now.notBefore origin.stamps.createdAt, signature, rfl, hstamps, hordered⟩

/-! ## Single deeds -/

/-- A moved version is a version, one edge further. -/
theorem IsVersion.transition (h : origin.IsVersion status record) {target : Status} {now : Value}
    {supply after : Supply} {moved : Record}
    (hmoved : record.transition target now supply = (.ok moved, after)) :
    status.Edge target ∧ origin.IsVersion target moved := by
  obtain ⟨updated, signature, rfl, haware, -⟩ := h
  obtain ⟨hedge, time, htime, rfl⟩ := Record.transition_withSignature hmoved
  exact ⟨hedge, isVersion_moved haware htime target signature⟩

/-- A refreshed version is a version in the same status. -/
theorem IsVersion.touch (h : origin.IsVersion status record) {now : Value} {touched : Record}
    (htouched : record.touch now = .ok touched) : origin.IsVersion status touched := by
  obtain ⟨updated, signature, rfl, haware, -⟩ := h
  have hrefresh : ((origin.version status updated).toRecord.withSignature signature).touch now =
      (refreshedWithin (.ofTime? origin.stamps.createdAt) now).map
        ((origin.version status updated).toRecord.withSignature signature).withUpdatedAt := rfl
  rw [hrefresh] at htouched
  cases hrefreshed : refreshedWithin (.ofTime? origin.stamps.createdAt) now with
  | error fault =>
    rw [hrefreshed] at htouched
    exact absurd htouched (by simp [Except.map])
  | ok updatedAt =>
    rw [hrefreshed] at htouched
    obtain rfl := Except.ok.inj htouched
    obtain ⟨time, htime, rfl⟩ := Record.refreshedWithin_ofTime? hrefreshed
    exact isVersion_moved haware htime status signature

/-- A version that is written as properties and read again is a version in the same status: its
stamps are settled already. Only the text of its signature may keep it from being read. -/
theorem IsVersion.reload (h : origin.IsVersion status record) {read : Blob}
    (hread : record.reload = .ok read) : origin.IsVersion status read.toRecord := by
  obtain ⟨updated, signature, rfl, haware, hordered⟩ := h
  -- A signature may have become any value, so what is written for it is some text or nothing.
  rw [Record.reload, Record.toProperties, Blob.content_withSignature haware] at hread
  cases htext : signatureText signature with
  | error fault =>
    rw [htext] at hread
    cases hread
  | ok text =>
  rw [htext] at hread
  have hitems : Blob.ofItems ((origin.version status updated).contentSigned text).toProperties
      (.ofUuid? origin.key) = .ok read := hread
  rw [Blob.ofItems_signed haware] at hitems
  split at hitems
  · next held _ =>
    obtain rfl := Except.ok.inj hitems
    refine ⟨updated, .ofUuid? held, ?_, haware, hordered⟩
    have hsettled : ({ (origin.version status updated).stamps with signature := held }).settle =
        { (origin.version status updated).stamps with signature := held } :=
      Stamps.settle_of_not_isReversed (Stamps.areOrdered_iff.1 hordered)
    rw [hsettled]
    rfl
  · exact absurd hitems (by simp)

/-- A version is a version after an update, whether that saved it or not. -/
theorem IsVersion.update (h : origin.IsVersion status record) (store : Store) (table : Table)
    (supply : Supply) : origin.IsVersion status (store.update record table supply).record := by
  rcases Store.record_update store record table supply with heq | ⟨id, heq⟩
  · rw [heq]
    exact h
  · obtain ⟨updated, signature, rfl, haware, hordered⟩ := h
    exact ⟨updated, id, heq, haware, hordered⟩

/-- **A deed makes a version of a version**, and it leads along the lifecycle. -/
theorem IsVersion.after (h : origin.IsVersion status record) (deed : Deed) :
    ∃ next, status.Reaches next ∧ origin.IsVersion next (record.after deed) := by
  -- A deed that fails is one that leaves the record, except for an update.
  have hkept : ∃ next, status.Reaches next ∧ origin.IsVersion next record := ⟨status, .refl, h⟩
  cases deed with
  | move chosen now supply =>
    rw [Record.after]
    rcases hmoved : record.transition chosen.target now supply with ⟨fault | moved, after⟩
    · exact hkept
    · obtain ⟨hedge, hversion⟩ := h.transition hmoved
      exact ⟨chosen.target, .single hedge, hversion⟩
  | touch now =>
    rw [Record.after]
    cases htouched : record.touch now with
    | error fault => exact hkept
    | ok touched => exact ⟨status, .refl, h.touch htouched⟩
  | assign field fixed value =>
    have hrefused : record.assign field value = .error (.invalid [⟨[field], .frozenField⟩]) :=
      if_pos (List.contains_iff_mem.2 fixed)
    rw [Record.after, hrefused]
    exact hkept
  | reload =>
    rw [Record.after]
    cases hread : record.reload with
    | error fault => exact hkept
    | ok read => exact ⟨status, .refl, h.reload hread⟩
  | insert store table => exact hkept
  | update store table supply => exact ⟨status, .refl, h.update store table supply⟩

/-! ## Runs -/

/-- A version is a version after any deeds, and they lead along the lifecycle. -/
theorem IsVersion.run (h : origin.IsVersion status record) (deeds : List Deed) :
    ∃ next, status.Reaches next ∧ origin.IsVersion next (record.run deeds) := by
  -- The induction is on the deeds from the front, for all versions and statuses at once.
  induction deeds generalizing record status with
  | nil => exact ⟨status, .refl, h⟩
  | cons deed rest ih =>
    obtain ⟨middle, hfirst, hversion⟩ := h.after deed
    obtain ⟨next, hrest, hlast⟩ := ih hversion
    exact ⟨next, hfirst.trans hrest, hlast⟩

end Blob

/-- **A created record keeps its shape.** A creation with identifiers that are identifiers by type
and an aware clock makes an initializing record, whose two times are the time of the clock. After
any deeds the record has the key, the size, the two texts and the creation it was made with, its
times have offsets and are in order, as instants unless they stand in one zone, and its status has
moved along the lifecycle only: so it has since the creation, and between any two moments of the
run. -/
theorem Record.run_isVersion {size storeKey recordKey : Value} {supply after : Supply}
    {record : Record}
    (hids : ∀ draw value, supply.idAt draw = some value → ∃ id, value = .uuid id)
    (hclock : ∀ tick time, supply.timeAt tick = some time → time.isAware = true)
    (hcreated : Record.create size storeKey recordKey supply = (.ok record, after)) :
    ∃ (origin : Blob) (key signature : Uuid) (now : DateTime),
      record = origin.toRecord ∧ origin.key = some key ∧ origin.status = .initializing ∧
      origin.stamps = ⟨some now, some now, some signature⟩ ∧ now.isAware = true ∧
      ∀ deeds more, ∃ old new,
        origin.IsVersion old (record.run deeds) ∧
        origin.IsVersion new (record.run (deeds ++ more)) ∧
        Status.initializing.Reaches old ∧ old.Reaches new ∧ old ≠ .unknown ∧ new ≠ .unknown := by
  obtain ⟨_, -, ⟨fault, hfault⟩ | ⟨key, signature, now, number, store, entry, -, -, hnow, -,
    hmade⟩⟩ := Record.create_cases hids size storeKey recordKey
  · rw [hcreated] at hfault
    exact absurd hfault (by simp)
  rw [hcreated, Prod.mk.injEq, Except.ok.injEq] at hmade
  obtain ⟨rfl, -⟩ := hmade
  have haware := hclock _ _ hnow
  refine ⟨_, key, signature, now, rfl, rfl, rfl, rfl, haware, ?_⟩
  intro deeds more
  -- The created record is its own first version.
  have horigin : (Blob.created key signature now number store entry).IsVersion .initializing
      (Blob.created key signature now number store entry).toRecord := by
    refine ⟨now, .uuid signature, rfl, ⟨?_, ?_⟩, ?_⟩
    · rintro _ ⟨⟩
      exact haware
    · rintro _ ⟨⟩
      exact haware
    · refine Stamps.areOrdered_iff.2 ?_
      rintro ⟨_, ⟨⟩, _, ⟨⟩, hearlier⟩
      exact now.not_isBefore_self hearlier
  obtain ⟨old, hold, hversion⟩ := horigin.run deeds
  obtain ⟨new, hnew, hlast⟩ := hversion.run more
  rw [Record.run_append]
  have hknown : old ≠ .unknown := Status.Reaches.ne_unknown hold (by simp)
  exact ⟨old, new, hversion, hlast, hold, hnew, hknown, Status.Reaches.ne_unknown hnew hknown⟩

/-! A run with a time before the creation, a time without an offset, a fixed field, an update of a
record that no table has and a time of the clock. -/

/-- Some deeds, a few of which fail. -/
def sampleDeeds : List Deed :=
  [.move .ready (.dateTime (sampleTimeAt 5400000000 (by decide))) sampleSupply,
    .touch (.dateTime (.startOf sampleTime.date)), .assign "size" (by decide) (.integer 5),
    .update ⟨.text "blob"⟩ .empty sampleSupply, .reload, .move .fail .absent sampleSupply]

theorem isVersion_after_sampleDeeds :
    ∃ origin status, (Record.create (.integer 4) (.text "store") (.text "record") sampleSupply).1 =
        .ok (Blob.toRecord origin) ∧
      origin.IsVersion status (origin.toRecord.run sampleDeeds) ∧
      Status.initializing.Reaches status := by
  have hcreated : Record.create (.integer 4) (.text "store") (.text "record") sampleSupply =
      (.ok (Blob.created ⟨1, by decide⟩ ⟨2, by decide⟩ sampleTime 4 "store" "record").toRecord,
        sampleSupply.afterCreation) := by
    with_unfolding_all rfl
  have hclock : ∀ tick time, sampleSupply.timeAt tick = some time → time.isAware = true := by
    rintro tick _ ⟨⟩
    rfl
  obtain ⟨origin, key, signature, now, horigin, -, -, -, -, hruns⟩ :=
    Record.run_isVersion (Supply.isDistinct_numbered _).isUuid hclock hcreated
  obtain ⟨status, _, hversion, -, hreaches, -⟩ := hruns sampleDeeds []
  rw [horigin] at hcreated hversion
  exact ⟨origin, status, congrArg Prod.fst hcreated, hversion, hreaches⟩

/-- A clock that stands still at the repeated time. -/
def repeatedSupply : Supply := .start (fun _ => some repeatedTime) Supply.numbered

/-- A record that is created when a time of day has come again, and then moved with a time that has
not, was last updated at an earlier instant than created. -/
theorem Record.hasEarlierUpdate_after_move :
    ∃ origin after : Blob,
      (Record.create (.integer 4) (.text "store") (.text "record") repeatedSupply).1 =
        .ok origin.toRecord ∧
      origin.toRecord.run [.move .ready (.dateTime unrepeatedTime) repeatedSupply] =
        after.toRecord ∧
      after.stamps.AreAware ∧ after.stamps.HasEarlierUpdate := by
  refine ⟨Blob.created ⟨1, by decide⟩ ⟨2, by decide⟩ repeatedTime 4 "store" "record",
    { Blob.created ⟨1, by decide⟩ ⟨2, by decide⟩ repeatedTime 4 "store" "record" with
      status := .ready
      stamps := ⟨some repeatedTime, some unrepeatedTime, some ⟨2, by decide⟩⟩ }, ?_, ?_, ⟨?_, ?_⟩,
    ⟨_, rfl, _, rfl, not_isBefore_repeatedTime.2⟩⟩
  · with_unfolding_all rfl
  · with_unfolding_all rfl
  · rintro _ ⟨⟩
    rfl
  · rintro _ ⟨⟩
    rfl

end BlobCatalog
