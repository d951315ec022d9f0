import BlobCatalog.Proofs.RecordRun
import BlobCatalog.Record.InPlace

/-!
# Moves in place

A move in place finds out what to write (`resolve`) and then writes the status and the last update
(`write`). Finding out changes no record. Once the record is known to have time stamps, writing
fails only if they cannot note what is set, and then at its very end. So a move that fails leaves
the record alone, or it leaves a record whose loose time stamps are written already
(`moveInPlace_isExact`), and a series of moves changes the status and the last update only
(`isMovedFrom_moveAll`). Where the time stamps are not loose, the holder has what
`Record.transition` gives (`moveInPlace_eq`). The status may be any value when a move begins:
`Record.canTransition_status_iff` says which values are as good as the statuses to come from.
-/

namespace BlobCatalog

/-! ## Statuses as numbers -/

namespace Value

/-- A value is a number, whatever its kind: a truth value, an integer, a status or a float. -/
def IsNumber (value : Value) (number : Int) : Prop :=
  value.integer? = some number ∨
    ∃ float, value = .float float ∧ Binary64.whole? float = some number

theorem same_integer_iff {value : Value} {number : Int} :
    value.same (.integer number) = true ↔ value.IsNumber number := by
  unfold IsNumber
  cases value <;> simp [same, equalsInteger, integer?] <;> exact eq_comm

/-- A number may be looked up in a set. -/
theorem IsNumber.canBeMember {value : Value} {number : Int} (h : value.IsNumber number) :
    value.canBeMember = true := by
  rcases h with hinteger | ⟨float, rfl, -⟩
  · cases value <;> simp [integer?, Value.canBeMember] at hinteger ⊢
  · simp [Value.canBeMember]

/-- A value is equal to a status if it is equal to its code. -/
theorem same_status (value : Value) (status : Status) :
    value.same (.status status) = value.same (.integer status.code) := by
  cases value <;> simp [same, equalsInteger, integer?]

end Value

/-- The lifecycle allows failure to every record. Another target is allowed to a record whose status
may be looked up in a set and is equal to the code of a status that it is entered from. -/
theorem Record.canTransition_status (record : Record) (target : Status) :
    record.canTransition (.status target) =
      if target = .error then .ok true
      else if record.status.canBeMember then
        .ok (target.enteredFrom.any fun source => record.status.same (.integer source.code))
      else .error .wrongKind := by
  have hmember : (Value.status target).canBeMember = true := by simp [Value.canBeMember]
  simp only [canTransition, hmember, Value.same_status]
  cases hhash : record.status.canBeMember <;> cases target <;>
    simp [Value.same, Value.equalsInteger, Value.integer?, Status.code, Status.enteredFrom]

/-- A record may fail in any status. It may get another status if its own is a number, which is the
code of a status to come from. -/
theorem Record.canTransition_status_iff {record : Record} {target : Status} :
    record.canTransition (.status target) = .ok true ↔
      target = .error ∨ ∃ source ∈ target.enteredFrom, record.status.IsNumber source.code := by
  rw [canTransition_status]
  by_cases herror : target = .error
  · simp [herror]
  · rw [if_neg herror]
    constructor
    · intro hallowed
      split at hallowed
      · obtain ⟨source, hsource, hsame⟩ := List.any_eq_true.1 (Except.ok.inj hallowed)
        exact .inr ⟨source, hsource, Value.same_integer_iff.1 hsame⟩
      · cases hallowed
    · rintro (hfails | ⟨source, hsource, hnumber⟩)
      · exact absurd hfails herror
      · rw [if_pos hnumber.canBeMember]
        exact congrArg Except.ok
          (List.any_eq_true.2 ⟨source, hsource, Value.same_integer_iff.2 hnumber⟩)

namespace Record

theorem permit_eq_ok_iff {record : Record} {target : Status} {granted : Unit} :
    record.permit target = .ok granted ↔ record.canTransition (.status target) = .ok true := by
  unfold permit
  split <;> simp [*]

theorem permit_eq_error_iff {record : Record} {target : Status} {fault : Fault} :
    record.permit target = .error fault ↔
      record.canTransition (.status target) = .error fault ∨
        record.canTransition (.status target) = .ok false ∧ fault = record.refusal target := by
  unfold permit
  split <;> simp [*, eq_comm]

theorem refreshedAt_eq_ok_iff {record : Record} {time updatedAt : Value} :
    record.refreshedAt time = .ok updatedAt ↔
      ∃ createdAt, record.createdAt? = .ok createdAt ∧
        refreshedWithin createdAt time = .ok updatedAt := by
  cases hcreated : record.createdAt? <;> simp [refreshedAt, hcreated, bind, Except.bind]

/-- Only time stamps have a creation. -/
theorem stamps_of_createdAt? {record : Record} {createdAt : Value}
    (h : record.createdAt? = .ok createdAt) :
    ∃ old signature, record.timestamps = .stamps createdAt old signature ∨
      record.timestamps = .looseStamps createdAt old signature := by
  unfold createdAt? at h
  split at h
  · next old signature hstamps =>
    obtain rfl := Except.ok.inj h
    exact ⟨old, signature, .inl hstamps⟩
  · next old signature hstamps =>
    obtain rfl := Except.ok.inj h
    exact ⟨old, signature, .inr hstamps⟩
  · cases h

/-- Only time stamps can be refreshed. -/
theorem stamps_of_refreshedAt {record : Record} {time updatedAt : Value}
    (h : record.refreshedAt time = .ok updatedAt) :
    ∃ createdAt old signature, record.timestamps = .stamps createdAt old signature ∨
      record.timestamps = .looseStamps createdAt old signature := by
  obtain ⟨createdAt, hcreated, -⟩ := refreshedAt_eq_ok_iff.1 h
  exact ⟨createdAt, stamps_of_createdAt? hcreated⟩

/-- The fault of a move that is not allowed names the move exactly if the status has a text. -/
theorem refusal_eq_forbidden_iff {record : Record} {target : Status} :
    (∃ current wanted, record.refusal target = .forbidden current wanted) ↔
      record.status.isWritable = true := by
  unfold refusal
  split <;> simp [*]

/-! Nothing but the refusal itself is a fault of a move that is not allowed. -/

theorem canTransition_ne_forbidden (record : Record) (target : Status) (current wanted : Value) :
    record.canTransition (.status target) ≠ .error (.forbidden current wanted) := by
  rw [canTransition_status]
  split
  · simp
  · split <;> simp

theorem refused_of_permit {record : Record} {target : Status} {current wanted : Value}
    (h : record.permit target = .error (.forbidden current wanted)) :
    record.canTransition (.status target) = .ok false ∧ record.status.isWritable = true := by
  rcases permit_eq_error_iff.1 h with hfault | ⟨hrefused, hrefusal⟩
  · exact absurd hfault (canTransition_ne_forbidden _ _ _ _)
  · exact ⟨hrefused, refusal_eq_forbidden_iff.1 ⟨current, wanted, hrefusal.symm⟩⟩

theorem createdAt?_ne_forbidden (record : Record) (current wanted : Value) :
    record.createdAt? ≠ .error (.forbidden current wanted) := by
  unfold createdAt?
  split <;> simp

end Record

theorem refreshedWithin_ne_forbidden (createdAt now current wanted : Value) :
    refreshedWithin createdAt now ≠ .error (.forbidden current wanted) := by
  unfold refreshedWithin
  split
  · split
    · split <;> simp
    · simp
  · simp

/-! ## Procedures -/

/-- What the holder has after a change that gives a new record or a fault. -/
def Holding.settle (held : Holding) : Except Fault Record × Supply →
    EStateM.Result Fault Holding Unit
  | (.ok record, supply) => .ok () ⟨record, supply⟩
  | (.error fault, supply) => .error fault ⟨held.record, supply⟩

theorem Supply.timeOr_ne_forbidden (supply : Supply) (now current wanted : Value) :
    (supply.timeOr now).1 ≠ .error (.forbidden current wanted) := by
  unfold timeOr
  split
  · simp
  · cases htime : supply.timeAt supply.ticks <;> simp [readClock, htime, Except.map]

namespace Record

variable {record : Record} {target : Status} {now : Value} {supply : Supply}

theorem transition_of_permit_error {fault : Fault} (h : record.permit target = .error fault) :
    record.transition target now supply = (.error fault, supply) := by
  rcases permit_eq_error_iff.1 h with hfault | ⟨hrefused, rfl⟩
  · simp only [transition, hfault]
  · simp only [transition, hrefused]

/-- A move that is allowed refreshes the last update at its time. -/
theorem transition_of_permit {granted : Unit} (h : record.permit target = .ok granted) :
    record.transition target now supply =
      match record.createdAt? with
      | .error fault => (.error fault, supply)
      | .ok createdAt =>
        ((supply.timeOr now).1.bind fun time => do
          let updatedAt ← refreshedWithin createdAt time
          record.noteAssigned
          return { record with status := .status target }.withUpdatedAt updatedAt,
          (supply.timeOr now).2) := by
  have hallowed := permit_eq_ok_iff.1 h
  cases hcreated : record.createdAt? with
  | error fault => simp only [transition, hallowed, hcreated]
  | ok createdAt =>
    by_cases hgiven : now.isGiven = true
    · simp only [transition, hallowed, hcreated, Supply.timeOr, hgiven, if_true]
      rfl
    · simp only [transition, hallowed, hcreated, Supply.timeOr, hgiven]
      cases supply.readClock.1 <;> rfl

end Record

namespace Procedure

variable {α β : Type} {held after : Holding} {value : α} {fault : Fault}

/-! ### Outcomes of steps -/

theorem bind_of_ok {first : Procedure α} (h : first held = .ok value after)
    (next : α → Procedure β) : (first >>= next) held = next value after := by
  simp only [bind, EStateM.bind, h]

theorem bind_of_error {first : Procedure α} (h : first held = .error fault after)
    (next : α → Procedure β) : (first >>= next) held = .error fault after := by
  simp only [bind, EStateM.bind, h]

theorem bind_eq_ok_iff {first : Procedure α} {next : α → Procedure β} {value : β} :
    (first >>= next) held = .ok value after ↔
      ∃ given between, first held = .ok given between ∧ next given between = .ok value after := by
  cases hfirst : first held with
  | ok given between => simp [bind_of_ok hfirst, and_assoc]
  | error fault between => simp [bind_of_error hfirst]

theorem bind_eq_error_iff {first : Procedure α} {next : α → Procedure β} :
    (first >>= next) held = .error fault after ↔
      first held = .error fault after ∨
        ∃ given between, first held = .ok given between ∧
          next given between = .error fault after := by
  cases hfirst : first held with
  | ok given between => simp [bind_of_ok hfirst, and_assoc]
  | error fault between => simp [bind_of_error hfirst]

theorem examine_eq_ok_iff {read : Record → Except Fault α} :
    examine read held = .ok value after ↔ read held.record = .ok value ∧ after = held := by
  cases hread : read held.record <;> simp [examine, hread, eq_comm]

theorem examine_eq_error_iff {read : Record → Except Fault α} :
    examine read held = .error fault after ↔ read held.record = .error fault ∧ after = held := by
  cases hread : read held.record <;> simp [examine, hread, eq_comm]

theorem takeTime_eq_ok_iff {now time : Value} :
    takeTime now held = .ok time after ↔
      held.supply.timeOr now = (.ok time, after.supply) ∧ after.record = held.record := by
  obtain ⟨record, supply⟩ := held
  obtain ⟨recordAfter, supplyAfter⟩ := after
  rcases htaken : supply.timeOr now with ⟨fault | taken, between⟩ <;>
    simp [takeTime, htaken, and_comm, and_assoc, eq_comm]

theorem takeTime_eq_error_iff {now : Value} :
    takeTime now held = .error fault after ↔
      held.supply.timeOr now = (.error fault, after.supply) ∧ after.record = held.record := by
  obtain ⟨record, supply⟩ := held
  obtain ⟨recordAfter, supplyAfter⟩ := after
  rcases htaken : supply.timeOr now with ⟨fault | taken, between⟩ <;>
    simp [takeTime, htaken, and_comm, and_left_comm, eq_comm]

theorem change_eq_ok_iff {assign : Record → Except Fault Record} {done : Unit} :
    change assign held = .ok done after ↔
      ∃ record, assign held.record = .ok record ∧ after = { held with record } := by
  cases hassigned : assign held.record <;> simp [change, hassigned, eq_comm]

/-! ### Procedures that change no record -/

/-- The record is the same afterwards, also after a fault. -/
def KeepsRecord (steps : Procedure α) : Prop :=
  ∀ held, (left (steps held)).record = held.record

theorem keepsRecord_examine (read : Record → Except Fault α) : KeepsRecord (examine read) := by
  intro held
  unfold examine
  split <;> rfl

theorem keepsRecord_takeTime (now : Value) : KeepsRecord (takeTime now) := by
  intro held
  unfold takeTime
  split <;> rfl

theorem KeepsRecord.bind {first : Procedure α} {next : α → Procedure β} (h : KeepsRecord first)
    (hnext : ∀ value, KeepsRecord (next value)) : KeepsRecord (first >>= next) := by
  intro held
  have hfirst := h held
  cases hrun : first held with
  | ok value between =>
    rw [hrun] at hfirst
    rw [bind_of_ok hrun]
    exact (hnext value between).trans hfirst
  | error fault between =>
    rw [hrun] at hfirst
    rw [bind_of_error hrun]
    exact hfirst

/-! ## A move, step by step -/

/-! ### Finding out what to write -/

section Resolve

variable {target : Status} {now updatedAt : Value}

theorem keepsRecord_resolve (target : Status) (now : Value) :
    KeepsRecord (resolve target now) :=
  (keepsRecord_examine _).bind fun _ => (keepsRecord_examine _).bind fun _ =>
    (keepsRecord_takeTime now).bind fun _ => keepsRecord_examine _

/-- There is something to write if the move is allowed, a time is at hand and the time stamps can be
refreshed at it. -/
theorem resolve_eq_ok_iff :
    resolve target now held = .ok updatedAt after ↔
      held.record.canTransition (.status target) = .ok true ∧
        ∃ time, held.supply.timeOr now = (.ok time, after.supply) ∧
          held.record.refreshedAt time = .ok updatedAt ∧ after.record = held.record := by
  simp only [resolve, bind_eq_ok_iff, examine_eq_ok_iff, takeTime_eq_ok_iff,
    Record.permit_eq_ok_iff, Record.refreshedAt_eq_ok_iff]
  constructor
  · rintro ⟨-, _, ⟨hallowed, rfl⟩, createdAt, _, ⟨hcreated, rfl⟩, time, between,
      ⟨htime, hrecord⟩, hrefreshed, rfl⟩
    exact ⟨hallowed, time, htime, ⟨createdAt, hcreated, hrefreshed⟩, hrecord⟩
  · rintro ⟨hallowed, time, htime, ⟨createdAt, hcreated, hrefreshed⟩, hrecord⟩
    exact ⟨(), held, ⟨hallowed, rfl⟩, createdAt, held, ⟨hcreated, rfl⟩, time, after,
      ⟨htime, hrecord⟩, hrefreshed, rfl⟩

/-- A move that is allowed looks at the creation, then at the time, and refreshes the one at the
other. -/
theorem resolve_of_permit {granted : Unit} {createdAt : Value}
    (hpermit : held.record.permit target = .ok granted)
    (hcreated : held.record.createdAt? = .ok createdAt) (now : Value) :
    resolve target now held =
      match (held.supply.timeOr now).1.bind (refreshedWithin createdAt) with
      | .ok updatedAt => .ok updatedAt { held with supply := (held.supply.timeOr now).2 }
      | .error fault => .error fault { held with supply := (held.supply.timeOr now).2 } := by
  rw [resolve, bind_of_ok (examine_eq_ok_iff.2 ⟨hpermit, rfl⟩),
    bind_of_ok (examine_eq_ok_iff.2 ⟨hcreated, rfl⟩)]
  rcases htime : held.supply.timeOr now with ⟨fault | time, supply⟩
  · have htaken : takeTime now held = .error fault { held with supply } :=
      takeTime_eq_error_iff.2 ⟨htime, rfl⟩
    rw [bind_of_error htaken]
    rfl
  · have htaken : takeTime now held = .ok time { held with supply } :=
      takeTime_eq_ok_iff.2 ⟨htime, rfl⟩
    rw [bind_of_ok htaken]
    simp only [examine, Except.bind]
    cases refreshedWithin createdAt time <;> rfl

/-- A move that is not allowed is refused at once: no time is looked at, and the clock is not
read. -/
theorem resolve_of_refused (h : held.record.canTransition (.status target) = .ok false)
    (now : Value) :
    resolve target now held = .error (held.record.refusal target) held := by
  refine bind_eq_error_iff.2 (.inl (examine_eq_error_iff.2 ⟨?_, rfl⟩))
  simp only [Record.permit, h]

/-- Nothing else is refused as a move that is not allowed. -/
theorem resolve_forbidden_iff :
    (∃ current wanted after,
        resolve target now held = .error (.forbidden current wanted) after) ↔
      held.record.canTransition (.status target) = .ok false ∧
        held.record.status.isWritable = true := by
  constructor
  · rintro ⟨current, wanted, after, hfault⟩
    -- One case for each step that may have failed; only the first one names a move.
    simp only [resolve, bind_eq_error_iff, examine_eq_error_iff, takeTime_eq_error_iff] at hfault
    rcases hfault with ⟨hpermit, -⟩ | ⟨_, _, -, ⟨hcreated, -⟩ | ⟨_, _, -, ⟨htime, -⟩ |
      ⟨_, _, -, hrefreshed, -⟩⟩⟩
    · exact Record.refused_of_permit hpermit
    · exact absurd hcreated (Record.createdAt?_ne_forbidden _ _ _)
    · exact absurd (congrArg Prod.fst htime) (Supply.timeOr_ne_forbidden _ _ _ _)
    · exact absurd hrefreshed (refreshedWithin_ne_forbidden _ _ _ _)
  · rintro ⟨hrefused, hwritable⟩
    obtain ⟨current, wanted, hrefusal⟩ := Record.refusal_eq_forbidden_iff.2 hwritable
    exact ⟨current, wanted, held, hrefusal ▸ resolve_of_refused hrefused now⟩

end Resolve

/-! ### Writing -/

section Write

variable {target : Status} {updatedAt : Value}

/-- Assigning the last update changes it, and then fails if the time stamps cannot note what was
set. -/
theorem assignStamp_updatedAt (held : Holding) {createdAt : Value}
    (h : held.record.createdAt? = .ok createdAt) :
    assignStamp "updated_at" updatedAt held =
      match held.record.noteAssigned with
      | .ok _ => .ok () { held with record := held.record.withUpdatedAt updatedAt }
      | .error fault =>
        .error fault { held with record := held.record.withUpdatedAt updatedAt } := by
  obtain ⟨⟨key, size, status, storeKey, recordKey, timestamps⟩, supply⟩ := held
  obtain ⟨old, signature, rfl | rfl⟩ := Record.stamps_of_createdAt? h <;> rfl

/-- Writing changes the status before that. -/
theorem write_of_createdAt? (held : Holding) {createdAt : Value}
    (h : held.record.createdAt? = .ok createdAt) :
    write target updatedAt held =
      match held.record.noteAssigned with
      | .ok _ => .ok () { held with
          record := { held.record with status := .status target }.withUpdatedAt updatedAt }
      | .error fault => .error fault { held with
          record := { held.record with status := .status target }.withUpdatedAt updatedAt } := by
  have hstatus : change (fun record => record.assign "status" (.status target)) held =
      .ok () { held with record := { held.record with status := .status target } } :=
    change_eq_ok_iff.2 ⟨_, rfl, rfl⟩
  rw [write, bind_of_ok hstatus]
  exact assignStamp_updatedAt
    { held with record := { held.record with status := .status target } } h

/-- Both assignments are made if the time stamps are not loose. -/
theorem write_of_stamps (held : Holding) {createdAt old signature : Value}
    (h : held.record.timestamps = .stamps createdAt old signature) :
    write target updatedAt held =
      .ok () { held with record := { held.record with
        status := .status target
        timestamps := .stamps createdAt updatedAt signature } } := by
  have hcreated : held.record.createdAt? = .ok createdAt := by simp only [Record.createdAt?, h]
  have hnoted : held.record.noteAssigned = .ok () := by simp only [Record.noteAssigned, h]
  rw [write_of_createdAt? held hcreated, hnoted]
  simp only [Record.withUpdatedAt, h]

/-- Both assignments are made to loose time stamps too, and the second one fails afterwards. -/
theorem write_of_looseStamps (held : Holding) {createdAt old signature : Value}
    (h : held.record.timestamps = .looseStamps createdAt old signature) :
    write target updatedAt held =
      .error .lacksOperation { held with record := { held.record with
        status := .status target
        timestamps := .looseStamps createdAt updatedAt signature } } := by
  have hcreated : held.record.createdAt? = .ok createdAt := by simp only [Record.createdAt?, h]
  have hnoted : held.record.noteAssigned = .error .lacksOperation := by
    simp only [Record.noteAssigned, h]
  rw [write_of_createdAt? held hcreated, hnoted]
  simp only [Record.withUpdatedAt, h]

end Write

/-! ### The whole move -/

section Whole

variable {target : Status} {now : Value}

/-- A move that cannot find out what to write fails before anything is written. -/
theorem moveInPlace_of_resolve_error (h : resolve target now held = .error fault after) :
    moveInPlace target now held = .error fault after :=
  bind_of_error h _

/-- A move that fails does so before anything is written, or after everything is, if the time stamps
are loose. -/
theorem moveInPlace_eq_error_iff :
    moveInPlace target now held = .error fault after ↔
      resolve target now held = .error fault after ∨
        fault = .lacksOperation ∧ ∃ time updatedAt createdAt old signature,
          held.record.canTransition (.status target) = .ok true ∧
          held.supply.timeOr now = (.ok time, after.supply) ∧
          held.record.refreshedAt time = .ok updatedAt ∧
          held.record.timestamps = .looseStamps createdAt old signature ∧
          after.record = { held.record with
            status := .status target
            timestamps := .looseStamps createdAt updatedAt signature } := by
  refine bind_eq_error_iff.trans (or_congr_right ⟨?_, ?_⟩)
  · -- The last update was found out, so there are time stamps, and only loose ones fail.
    rintro ⟨updatedAt, between, hresolve, hwrite⟩
    obtain ⟨hallowed, time, htime, hrefreshed, hrecord⟩ := resolve_eq_ok_iff.1 hresolve
    obtain ⟨createdAt, old, signature, hstamps | hstamps⟩ :=
      Record.stamps_of_refreshedAt hrefreshed
    · rw [write_of_stamps between (hrecord ▸ hstamps)] at hwrite
      cases hwrite
    · rw [write_of_looseStamps between (hrecord ▸ hstamps)] at hwrite
      cases hwrite
      exact ⟨rfl, time, updatedAt, createdAt, old, signature, hallowed, htime, hrefreshed, hstamps,
        by rw [hrecord]⟩
  · rintro ⟨rfl, time, updatedAt, createdAt, old, signature, hallowed, htime, hrefreshed, hstamps,
      hrecord⟩
    refine ⟨updatedAt, { held with supply := after.supply }, ?_, ?_⟩
    · exact resolve_eq_ok_iff.2 ⟨hallowed, time, htime, hrefreshed, rfl⟩
    · rw [write_of_looseStamps ⟨held.record, after.supply⟩ hstamps, ← hrecord]

/-- **A move that fails leaves the record alone, or its loose time stamps are written.** -/
theorem record_of_moveInPlace_error (h : moveInPlace target now held = .error fault after) :
    after.record = held.record ∨
      fault = .lacksOperation ∧ ∃ updatedAt createdAt old signature,
        held.record.timestamps = .looseStamps createdAt old signature ∧
        after.record = { held.record with
          status := .status target
          timestamps := .looseStamps createdAt updatedAt signature } := by
  rcases moveInPlace_eq_error_iff.1 h with hresolve |
    ⟨hfault, _, updatedAt, createdAt, old, signature, -, -, -, hstamps, hrecord⟩
  · have hkept := keepsRecord_resolve target now held
    rw [hresolve] at hkept
    exact .inl hkept
  · exact .inr ⟨hfault, updatedAt, createdAt, old, signature, hstamps, hrecord⟩

/-- A move that succeeds writes the status and the refreshed last update, and nothing else. -/
theorem moveInPlace_eq_ok_iff :
    moveInPlace target now held = .ok () after ↔
      held.record.canTransition (.status target) = .ok true ∧
        ∃ time updatedAt createdAt old signature,
          held.supply.timeOr now = (.ok time, after.supply) ∧
          held.record.refreshedAt time = .ok updatedAt ∧
          held.record.timestamps = .stamps createdAt old signature ∧
          after.record = { held.record with
            status := .status target
            timestamps := .stamps createdAt updatedAt signature } := by
  rw [moveInPlace, bind_eq_ok_iff]
  constructor
  · rintro ⟨updatedAt, between, hresolve, hwrite⟩
    obtain ⟨hallowed, time, htime, hrefreshed, hrecord⟩ := resolve_eq_ok_iff.1 hresolve
    obtain ⟨createdAt, old, signature, hstamps | hstamps⟩ :=
      Record.stamps_of_refreshedAt hrefreshed
    · rw [write_of_stamps between (hrecord ▸ hstamps)] at hwrite
      cases hwrite
      exact ⟨hallowed, time, updatedAt, createdAt, old, signature, htime, hrefreshed, hstamps,
        by rw [hrecord]⟩
    · rw [write_of_looseStamps between (hrecord ▸ hstamps)] at hwrite
      cases hwrite
  · rintro ⟨hallowed, time, updatedAt, createdAt, old, signature, htime, hrefreshed, hstamps,
      hrecord⟩
    refine ⟨updatedAt, { held with supply := after.supply }, ?_, ?_⟩
    · exact resolve_eq_ok_iff.2 ⟨hallowed, time, htime, hrefreshed, rfl⟩
    · rw [write_of_stamps ⟨held.record, after.supply⟩ hstamps, ← hrecord]

/-- **The holder has what the move gives**, the new record or the old one with the fault, unless the
time stamps are loose. -/
theorem moveInPlace_eq (target : Status) (now : Value) (held : Holding)
    (hnoted : held.record.noteAssigned = .ok ()) :
    moveInPlace target now held =
      held.settle (held.record.transition target now held.supply) := by
  -- A move fails when it is refused, without time stamps, without a time or when the time is naive,
  -- and in this order; each case stops the procedure where it stops the move.
  cases hpermit : held.record.permit target with
  | error fault =>
    have hresolve : resolve target now held = .error fault held :=
      bind_of_error (examine_eq_error_iff.2 ⟨hpermit, rfl⟩) _
    rw [moveInPlace_of_resolve_error hresolve, Record.transition_of_permit_error hpermit]
    rfl
  | ok granted =>
    rw [Record.transition_of_permit hpermit]
    cases hcreated : held.record.createdAt? with
    | error fault =>
      have hresolve : resolve target now held = .error fault held := by
        rw [resolve, bind_of_ok (examine_eq_ok_iff.2 ⟨hpermit, rfl⟩),
          bind_of_error (examine_eq_error_iff.2 ⟨hcreated, rfl⟩)]
      rw [moveInPlace_of_resolve_error hresolve]
      rfl
    | ok createdAt =>
      have hresolve := resolve_of_permit hpermit hcreated now
      cases htime : (held.supply.timeOr now).1 with
      | error fault =>
        rw [htime] at hresolve
        rw [moveInPlace_of_resolve_error hresolve]
        rfl
      | ok time =>
        rw [htime, Except.bind] at hresolve
        cases hrefreshed : refreshedWithin createdAt time with
        | error fault =>
          rw [hrefreshed] at hresolve
          rw [moveInPlace_of_resolve_error hresolve]
          simp only [Except.bind, bind, hrefreshed, Holding.settle]
        | ok updatedAt =>
          -- The creation is there, so there are time stamps for the assignments to change.
          rw [hrefreshed] at hresolve
          have hwrite : write target updatedAt ⟨held.record, (held.supply.timeOr now).2⟩ = _ :=
            write_of_createdAt? _ hcreated
          rw [hnoted] at hwrite
          rw [moveInPlace, bind_of_ok hresolve]
          refine hwrite.trans ?_
          simp only [Except.bind, bind, hrefreshed, hnoted, Holding.settle]
          rfl

/-- The record that a holder has after a move is the one that the move leaves in place. -/
theorem after_move (record : Record) (hnoted : record.noteAssigned = .ok ()) (chosen : Move)
    (now : Value) (supply : Supply) :
    record.after (.move chosen now supply) =
      (left (moveInPlace chosen.target now ⟨record, supply⟩)).record := by
  rw [moveInPlace_eq chosen.target now ⟨record, supply⟩ hnoted]
  rcases hmoved : record.transition chosen.target now supply with ⟨fault | moved, after⟩ <;>
    simp only [Record.after, Record.orChanged, hmoved, Holding.settle, left]

/-- The holder has what a refresh gives, unless the time stamps are loose. -/
theorem touchInPlace_eq (now : Value) (held : Holding)
    (hnoted : held.record.noteAssigned = .ok ()) :
    touchInPlace now held = held.settle (held.record.touch now, held.supply) := by
  cases hrefreshed : held.record.refreshedAt now with
  | error fault =>
    rw [touchInPlace, bind_of_error (examine_eq_error_iff.2 ⟨hrefreshed, rfl⟩)]
    simp only [Record.touch, hrefreshed, bind, Except.bind, Holding.settle]
  | ok updatedAt =>
    obtain ⟨createdAt, hcreated, -⟩ := Record.refreshedAt_eq_ok_iff.1 hrefreshed
    rw [touchInPlace, bind_of_ok (examine_eq_ok_iff.2 ⟨hrefreshed, rfl⟩),
      assignStamp_updatedAt held hcreated, hnoted]
    simp only [Record.touch, hrefreshed, hnoted, bind, Except.bind, pure, Except.pure,
      Holding.settle]

end Whole

/-! ## Series of moves -/

/-- The record differs from the original at most in its status and its last update. -/
def IsMovedFrom (original record : Record) : Prop :=
  record = original ∨
    ∃ status updatedAt, record = { original with status }.withUpdatedAt updatedAt

theorem IsMovedFrom.trans {first second third : Record} (h : IsMovedFrom first second)
    (hnext : IsMovedFrom second third) : IsMovedFrom first third := by
  rcases h with rfl | ⟨_, _, rfl⟩
  · exact hnext
  · rcases hnext with rfl | ⟨status, updatedAt, rfl⟩
    · exact .inr ⟨_, _, rfl⟩
    · refine .inr ⟨status, updatedAt, ?_⟩
      obtain ⟨key, size, status, storeKey, recordKey, timestamps⟩ := first
      cases timestamps <;> rfl

theorem isMovedFrom_moveInPlace (target : Status) (now : Value) (held : Holding) :
    IsMovedFrom held.record (left (moveInPlace target now held)).record := by
  cases hmove : moveInPlace target now held with
  | error fault after =>
    rcases record_of_moveInPlace_error hmove with hsame |
      ⟨-, updatedAt, createdAt, old, signature, hstamps, hrecord⟩
    · exact .inl hsame
    · refine .inr ⟨.status target, updatedAt, hrecord.trans ?_⟩
      simp only [Record.withUpdatedAt, hstamps]
  | ok done after =>
    obtain ⟨-, _, updatedAt, createdAt, old, signature, -, -, hstamps, hrecord⟩ :=
      moveInPlace_eq_ok_iff.1 hmove
    refine .inr ⟨.status target, updatedAt, hrecord.trans ?_⟩
    simp only [Record.withUpdatedAt, hstamps]

/-- What the holder has after some moves, each tried whether or not the ones before it failed. -/
def moveAll (moves : List (Move × Value)) (held : Holding) : Holding :=
  moves.foldl (fun held (chosen, now) => left (moveInPlace chosen.target now held)) held

/-- **No series of moves changes more than the status and the last update.** -/
theorem isMovedFrom_moveAll (moves : List (Move × Value)) (held : Holding) :
    IsMovedFrom held.record (moveAll moves held).record := by
  induction moves generalizing held with
  | nil => exact .inl rfl
  | cons move rest ih =>
    obtain ⟨chosen, now⟩ := move
    exact (isMovedFrom_moveInPlace chosen.target now held).trans (ih _)

/-! ## Main result -/

/-- **A move is exact, whatever the record holds.** If it fails, the record is as before, unless the
time stamps are loose: then the status and the last update may be written by the time that it fails.
Where they are not loose, the holder has what the move gives. It succeeds if it is allowed, a time
is given or on the clock and the time stamps can be refreshed at it and are not loose; then the
status is the target, the last update is the refreshed time and nothing else changes. A move that is
not allowed is refused before the given time or the clock matter, and it is refused as forbidden
exactly if the status has a text. Failure is allowed always, the two other moves if the status can
be looked up and equals a code that they start from, whatever kind of number it is. -/
theorem moveInPlace_isExact (chosen : Move) (now : Value) (record : Record) (supply : Supply) :
    let run := moveInPlace chosen.target now ⟨record, supply⟩
    (record.noteAssigned = .ok () →
      run = Holding.settle ⟨record, supply⟩ (record.transition chosen.target now supply)) ∧
    (∀ fault after, run = .error fault after → after.record = record ∨
      fault = .lacksOperation ∧ ∃ updatedAt createdAt old signature,
        record.timestamps = .looseStamps createdAt old signature ∧
        after.record = { record with
          status := .status chosen.target
          timestamps := .looseStamps createdAt updatedAt signature }) ∧
    (∀ after, run = .ok () after ↔
      record.canTransition (.status chosen.target) = .ok true ∧
        ∃ time updatedAt createdAt old signature,
          supply.timeOr now = (.ok time, after.supply) ∧
          record.refreshedAt time = .ok updatedAt ∧
          record.timestamps = .stamps createdAt old signature ∧
          after.record = { record with
            status := .status chosen.target
            timestamps := .stamps createdAt updatedAt signature }) ∧
    ((∃ current wanted after, run = .error (.forbidden current wanted) after) ↔
      record.canTransition (.status chosen.target) = .ok false ∧
        record.status.isWritable = true) ∧
    (record.canTransition (.status chosen.target) = .ok false →
      run = .error (record.refusal chosen.target) ⟨record, supply⟩) ∧
    (record.canTransition (.status chosen.target) =
      match chosen with
      | .fail => .ok true
      | .ready =>
        if record.status.canBeMember then .ok (record.status.same (.integer 1))
        else .error .wrongKind
      | .markForDeletion =>
        if record.status.canBeMember then
          .ok (record.status.same (.integer 1) || record.status.same (.integer 2))
        else .error .wrongKind) ∧
    (record.canTransition (.status chosen.target) = .ok true ↔
      chosen.target = .error ∨
        ∃ source ∈ chosen.target.enteredFrom, record.status.IsNumber source.code) := by
  refine ⟨moveInPlace_eq chosen.target now ⟨record, supply⟩,
    fun _ _ => record_of_moveInPlace_error, fun _ => moveInPlace_eq_ok_iff, ?_, ?_, ?_,
    Record.canTransition_status_iff⟩
  · -- The fault of loose time stamps is none that names a move.
    have hfault : ∀ current wanted after,
        moveInPlace chosen.target now ⟨record, supply⟩ =
            .error (.forbidden current wanted) after ↔
          resolve chosen.target now ⟨record, supply⟩ =
            .error (.forbidden current wanted) after := by
      intro current wanted after
      refine moveInPlace_eq_error_iff.trans (or_iff_left ?_)
      rintro ⟨hloose, -⟩
      cases hloose
    simp only [hfault]
    exact resolve_forbidden_iff
  · intro hrefused
    exact moveInPlace_of_resolve_error (resolve_of_refused hrefused now)
  · rw [Record.canTransition_status]
    cases chosen <;> simp [Move.target, Status.enteredFrom, Status.code]

/-- The sample record with the truth value for 1 as its status is made ready. The number 0 given for
the time counts as none, so the clock is read. -/
theorem moveInPlace_sampleBlob :
    moveInPlace .ready (.integer 0) ⟨{ sampleBlob.toRecord with status := .boolean true },
        sampleSupply⟩ =
      .ok () ⟨{ sampleBlob.toRecord with
          timestamps := .stamps (.dateTime sampleTime) (.dateTime sampleTime)
            (.uuid sampleSignature) },
        { sampleSupply with ticks := 1 }⟩ := by
  obtain ⟨-, -, hok, -, -, hallowed, -⟩ := moveInPlace_isExact .ready (.integer 0)
    { sampleBlob.toRecord with status := .boolean true } sampleSupply
  refine (hok _).2 ⟨hallowed.trans rfl, .dateTime sampleTime, .dateTime sampleTime, _, _, _, rfl,
    rfl, rfl, rfl⟩

/-- The sample record as a created one, with time stamps that cannot note what is set. -/
def looseRecord : Record :=
  { sampleBlob.toRecord with
    status := .status .initializing
    timestamps := .looseStamps (.dateTime sampleTime) .absent .absent }

/-- It is made ready, and the move fails when this is done. -/
theorem moveInPlace_of_looseRecord :
    ∃ fault after,
      moveInPlace .ready (.dateTime sampleTime) ⟨looseRecord, sampleSupply⟩ =
        .error fault after ∧
      after.record.status = .status .ready ∧ after.record ≠ looseRecord := by
  have hrun : moveInPlace .ready (.dateTime sampleTime) ⟨looseRecord, sampleSupply⟩ =
      .error .lacksOperation ⟨{ looseRecord with
        status := .status .ready
        timestamps := .looseStamps (.dateTime sampleTime) (.dateTime sampleTime) .absent },
        sampleSupply⟩ := rfl
  refine ⟨_, _, hrun, rfl, fun hsame => ?_⟩
  have hstatus := congrArg Record.status hsame
  cases hstatus

end Procedure

end BlobCatalog
