import BlobCatalog.Proofs.StoreRoundTrip

/-!
# A record is read back from its property list

A typed record is written as five properties and read from them again. Only a time without an offset
keeps a record from being written (`Blob.toProperties_error_iff`), and reading gives the record
back under the same key, with a last update before the creation raised to it
(`properties_round_trip`). What is read is therefore equal to the record exactly when its last
update is not before its creation, both as the same record (`Blob.settled_eq_iff`) and as records
compare (`Blob.same_settled_iff`).
-/

namespace BlobCatalog

open Calendar (DateTime)

/-! ## Records that can be written -/

/-- A time stamp of the record has no offset. -/
def Stamps.HasNaive (stamps : Stamps) : Prop :=
  ∃ time, (stamps.createdAt = some time ∨ stamps.updatedAt = some time) ∧ time.isAware = false

theorem Stamps.areAware_iff {stamps : Stamps} : stamps.AreAware ↔ ¬stamps.HasNaive := by
  constructor
  · rintro ⟨hcreated, hupdated⟩ ⟨time, htime | htime, hnaive⟩
    · exact absurd (hcreated time htime) (by simp [hnaive])
    · exact absurd (hupdated time htime) (by simp [hnaive])
  · intro h
    have haware : ∀ time, stamps.createdAt = some time ∨ stamps.updatedAt = some time →
        time.isAware = true := by
      intro time htime
      apply (Bool.eq_false_or_eq_true _).resolve_right
      intro hnaive
      exact h ⟨time, htime, hnaive⟩
    exact ⟨fun time htime => haware time (.inl htime), fun time htime => haware time (.inr htime)⟩

/-- The property list of a typed record: five properties in their order. -/
def Blob.properties (blob : Blob) : List Value :=
  [.property sizeName (.integer blob.size),
    .property statusName (.integer blob.status.code),
    .property storeKeyName (.text blob.storeKey),
    .property recordKeyName (.text blob.recordKey),
    .property timestampsName (.list
      [.property createdAtName (.ofTime? blob.stamps.createdAt),
        .property updatedAtName (.ofTime? blob.stamps.updatedAt),
        .property signatureName
          (.ofText? (blob.stamps.signature.map fun id => .ofString id.text))])]

/-- A record with aware times is written as its five properties. -/
theorem Blob.toProperties_toRecord {blob : Blob} (h : blob.stamps.AreAware) :
    blob.toRecord.toProperties = .ok blob.properties := by
  rw [Record.toProperties, Blob.content_toRecord h]
  rfl

/-- A stamp that may not be written is a time without an offset. -/
theorem writableStamp_naive {name : String} {time : DateTime} (h : time.isAware = false) :
    writableStamp name (.ofTime? (some time)) = .error (.naiveStamp name time) := by
  simp [Value.ofTime?, writableStamp, h]

/-- A record with a naive time is refused for that time, the creation first, also after a number was
assigned to its status. -/
theorem Blob.toProperties_assigned_of_hasNaive {blob : Blob} {status : Value} {number : Int}
    (hstatus : status.toInteger = .ok number) (h : blob.stamps.HasNaive) :
    ∃ name time,
      { blob.toRecord with status }.toProperties = .error (.naiveStamp name time) := by
  -- The stamps are written in their order, so a naive creation hides a naive last update.
  have hstamps : blob.toRecord.timestamps = blob.stamps.toValue := rfl
  by_cases hcreated : ∀ time ∈ blob.stamps.createdAt, time.isAware = true
  · obtain ⟨time, htime | htime, hnaive⟩ := h
    · exact absurd (hcreated time htime) (by simp [hnaive])
    · refine ⟨updatedAtName, time, ?_⟩
      simp [Record.toProperties, Record.content, hstatus, hstamps, Stamps.toValue,
        writableStamp_ofTime? createdAtName hcreated, htime, writableStamp_naive hnaive, bind,
        Except.bind, Except.map]
  · obtain ⟨time, htime, hnaive⟩ :
        ∃ time, blob.stamps.createdAt = some time ∧ time.isAware = false := by
      simpa using hcreated
    refine ⟨createdAtName, time, ?_⟩
    simp [Record.toProperties, Record.content, hstatus, hstamps, Stamps.toValue, htime,
      writableStamp_naive hnaive, bind, Except.bind, Except.map]

theorem Blob.toProperties_of_hasNaive {blob : Blob} (h : blob.stamps.HasNaive) :
    ∃ name time, blob.toRecord.toProperties = .error (.naiveStamp name time) :=
  Blob.toProperties_assigned_of_hasNaive (toInteger_status blob.status) h

/-- Writing fails exactly on records with a naive time, and for that reason. -/
theorem Blob.toProperties_error_iff {blob : Blob} :
    (∃ name time, blob.toRecord.toProperties = .error (.naiveStamp name time)) ↔
      blob.stamps.HasNaive := by
  constructor
  · rintro ⟨name, time, hfault⟩
    apply Classical.byContradiction
    intro hnone
    rw [Blob.toProperties_toRecord (Stamps.areAware_iff.2 hnone)] at hfault
    exact absurd hfault (by simp)
  · exact Blob.toProperties_of_hasNaive

/-! ## Equality of what is read -/

/-- A time is equal to itself. -/
theorem Calendar.DateTime.same_self (time : DateTime) : time.same time = true := by
  cases hzone : time.zone <;> simp [same, sharesZone, isTwofold, hzone]

/-- A time is equal to none that it is before. -/
theorem Calendar.DateTime.not_same_of_isBefore {left right : DateTime} (h : left.IsBefore right) :
    left.same right = false := by
  unfold IsBefore at h
  by_cases hzone : left.sharesZone right = true
  · rw [if_pos hzone] at h
    simp [same, hzone, Int.ne_of_lt h]
  · rw [if_neg hzone] at h
    simp [same, hzone, Int.ne_of_lt h]

namespace Value

theorem same_ofTime?_self (time : Option DateTime) :
    (ofTime? time).same (ofTime? time) = true := by
  cases time with
  | none => simp [ofTime?, same]
  | some held => simp [ofTime?, same, DateTime.same_self]

theorem same_ofUuid?_self (id : Option Uuid) : (ofUuid? id).same (ofUuid? id) = true := by
  cases id <;> simp [ofUuid?, same]

end Value

namespace Blob

variable {blob : Blob}

/-- Settling a record changes it exactly when its last update is before its creation. -/
theorem settled_eq_iff (h : blob.stamps.AreAware) :
    { blob with stamps := blob.stamps.settle } = blob ↔ ¬blob.stamps.IsReversed := by
  constructor
  · rintro heq ⟨created, hcreated, updated, hupdated, hearlier⟩
    have hstamps : blob.stamps.settle = blob.stamps := congrArg Blob.stamps heq
    rw [Stamps.settle_of_isReversed h ⟨created, hcreated, updated, hupdated, hearlier⟩] at hstamps
    have hsame : blob.stamps.createdAt = blob.stamps.updatedAt :=
      congrArg Stamps.updatedAt hstamps
    rw [hcreated, hupdated] at hsame
    obtain rfl := Option.some.inj hsame
    exact created.not_isBefore_self hearlier
  · intro hordered
    rw [Stamps.settle_of_not_isReversed hordered]

/-- Records that differ at most in their last update compare as their last updates do. -/
theorem same_withUpdatedAt (blob : Blob) (updatedAt : Option DateTime) :
    blob.toRecord.same { blob with stamps := { blob.stamps with updatedAt } }.toRecord =
      (Value.ofTime? blob.stamps.updatedAt).same (.ofTime? updatedAt) := by
  simp [Record.same, Blob.toRecord, Stamps.toValue, Value.same, Value.equalsInteger,
    Value.integer?, Value.same_ofTime?_self, Value.same_ofUuid?_self]

/-- A record and its settled form compare as equal exactly when the last update is not before the
creation. -/
theorem same_settled_iff (h : blob.stamps.AreAware) :
    blob.toRecord.same { blob with stamps := blob.stamps.settle }.toRecord = true ↔
      ¬blob.stamps.IsReversed := by
  constructor
  · rintro hsame ⟨created, hcreated, updated, hupdated, hearlier⟩
    rw [Stamps.settle_of_isReversed h ⟨created, hcreated, updated, hupdated, hearlier⟩,
      same_withUpdatedAt] at hsame
    simp only [Option.mem_def] at hcreated hupdated
    have hdiffers := DateTime.not_same_of_isBefore hearlier
    simp [hcreated, hupdated, Value.ofTime?, Value.same, hdiffers] at hsame
  · intro hordered
    rw [Stamps.settle_of_not_isReversed hordered]
    exact (same_withUpdatedAt blob blob.stamps.updatedAt).trans (Value.same_ofTime?_self _)

end Blob

/-! ## The round trip -/

/-- **A record is read back from its property list.** A typed record cannot be written exactly when
one of its times has no offset. Otherwise it is written as its five properties, which do not depend
on its key, and under its key they are read as the record itself, except that a last update before
the creation becomes the creation. What is read is the record, and compares as equal to it, exactly
when its last update is not before its creation. To be before is to be an earlier instant, unless
the two times stand in one zone, whose clock decides then. -/
theorem properties_round_trip (blob : Blob) :
    ((∃ name time, blob.toRecord.toProperties = .error (.naiveStamp name time)) ↔
      blob.stamps.HasNaive) ∧
    (¬blob.stamps.HasNaive →
      (∀ key, { blob with key }.toRecord.toProperties = .ok blob.properties) ∧
      ∃ read, Blob.ofProperties (.list blob.properties) blob.toRecord.key = .ok read ∧
        (blob.stamps.IsReversed → read =
          { blob with stamps := { blob.stamps with updatedAt := blob.stamps.createdAt } }) ∧
        (read = blob ↔ ¬blob.stamps.IsReversed) ∧
        (blob.toRecord.same read.toRecord = true ↔ ¬blob.stamps.IsReversed)) ∧
    (¬blob.stamps.ShareZone → (blob.stamps.IsReversed ↔ blob.stamps.HasEarlierUpdate)) := by
  refine ⟨?_, ?_, Stamps.isReversed_iff⟩
  · exact Blob.toProperties_error_iff
  · intro hnone
    have haware := Stamps.areAware_iff.2 hnone
    constructor
    · intro key
      have hkeyed : ({ blob with key } : Blob).stamps.AreAware := haware
      exact Blob.toProperties_toRecord hkeyed
    · -- What is read is the settled record.
      refine ⟨{ blob with stamps := blob.stamps.settle },
        Blob.ofItems_toProperties haware blob.key, ?_, Blob.settled_eq_iff haware,
        Blob.same_settled_iff haware⟩
      intro hreversed
      rw [Stamps.settle_of_isReversed haware hreversed]

/-! The sample record was last updated before its creation, and its times have odd offsets. -/

theorem properties_of_sampleBlob :
    sampleBlob.toRecord.toProperties = .ok sampleBlob.properties ∧
      ∃ read, Blob.ofProperties (.list sampleBlob.properties) (.uuid sampleKey) = .ok read ∧
        read.stamps.updatedAt = some sampleTime ∧ read ≠ sampleBlob := by
  have hreversed : sampleBlob.stamps.IsReversed := ⟨_, rfl, _, rfl, by decide⟩
  obtain ⟨-, hround, -⟩ := properties_round_trip sampleBlob
  obtain ⟨hwritten, read, hread, hraised, heq, -⟩ :=
    hround (Stamps.areAware_iff.1 areAware_sampleBlob)
  refine ⟨hwritten (some sampleKey), read, hread, ?_, fun h => heq.1 h hreversed⟩
  rw [hraised hreversed]
  rfl

/-- A record whose last update is an earlier instant than its creation, in a zone whose clock tells
it otherwise. -/
def zonedBlob : Blob :=
  { sampleBlob with stamps := ⟨some repeatedTime, some unrepeatedTime, none⟩ }

/-- Time stamps are not looked into when a record is built, so a record with an integer for its
creation is accepted, and writing it fails for want of an operation; and a last update that is an
earlier instant is not raised in one zone. -/
theorem properties_of_oddStamps :
    (∃ record, Record.ofFields [("timestamps", .stamps (.integer 5) .absent .absent)] = .ok record ∧
      record.toProperties = .error .lacksOperation) ∧
    (¬zonedBlob.stamps.HasNaive ∧ zonedBlob.stamps.HasEarlierUpdate ∧
      Blob.ofProperties (.list zonedBlob.properties) zonedBlob.toRecord.key = .ok zonedBlob) := by
  have haware : zonedBlob.stamps.AreAware :=
    ⟨by rintro _ ⟨⟩; rfl, by rintro _ ⟨⟩; rfl⟩
  obtain ⟨hordered, hearlier⟩ := not_isBefore_repeatedTime
  have hsettled : zonedBlob.stamps.settle = zonedBlob.stamps := by
    refine Stamps.settle_of_not_isReversed ?_
    rintro ⟨_, ⟨⟩, _, ⟨⟩, hbefore⟩
    exact hordered hbefore
  refine ⟨⟨_, rfl, rfl⟩, Stamps.areAware_iff.1 haware,
    ⟨_, rfl, _, rfl, hearlier⟩, ?_⟩
  have hread : Blob.ofProperties (.list zonedBlob.properties) zonedBlob.toRecord.key =
      .ok { zonedBlob with stamps := zonedBlob.stamps.settle } :=
    Blob.ofItems_toProperties haware zonedBlob.key
  rw [hread, hsettled]

end BlobCatalog
