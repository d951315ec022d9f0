import BlobCatalog.Record
import BlobCatalog.Supply

/-!
# Lifecycle of a record

A record is created as initializing (`Record.create`) and moves by `Record.transition`. A record
becomes ready from initializing, its deletion becomes pending from either of these, and it may fail
from anywhere (`Record.canTransition`). Each move refreshes the time of the last update, which never
falls before the time of creation (`refreshedAt`). A refused move changes nothing, and a move takes
the clock's time when none is given. The record that a failed move leaves to its holder is not told
here (`BlobCatalog.Record.InPlace`).
-/

namespace BlobCatalog

open Calendar (DateTime)

/-! ## Refreshing a time stamp -/

/-- The time that a refresh stores: the given one, or the time of creation if that is later. -/
def refreshedWithin (createdAt now : Value) : Except Fault Value :=
  match now with
  | .dateTime time =>
    if time.isAware then
      match createdAt with
      | .absent => .ok now
      | .dateTime created => .ok (.dateTime (time.notBefore (some created)))
      | _ => .error .lacksOperation
    else .error (.naiveTime time)
  | _ => .error .lacksOperation

namespace Record

/-- The time of creation among the stamps of a record. -/
def createdAt? (record : Record) : Except Fault Value :=
  match record.timestamps with
  | .stamps createdAt _ _ | .looseStamps createdAt _ _ => .ok createdAt
  | _ => .error .lacksOperation

/-- The time that a refresh of the record would store. -/
def refreshedAt (record : Record) (now : Value) : Except Fault Value := do
  let createdAt ← record.createdAt?
  refreshedWithin createdAt now

/-- A record with a new time of the last update. -/
def withUpdatedAt (record : Record) (updatedAt : Value) : Record :=
  match record.timestamps with
  | .stamps createdAt _ signature =>
    { record with timestamps := .stamps createdAt updatedAt signature }
  | .looseStamps createdAt _ signature =>
    { record with timestamps := .looseStamps createdAt updatedAt signature }
  | _ => record

/-- A record with a new signature. -/
def withSignature (record : Record) (signature : Value) : Record :=
  match record.timestamps with
  | .stamps createdAt updatedAt _ =>
    { record with timestamps := .stamps createdAt updatedAt signature }
  | .looseStamps createdAt updatedAt _ =>
    { record with timestamps := .looseStamps createdAt updatedAt signature }
  | _ => record

/-- Refresh the time of the last update. -/
def touch (record : Record) (now : Value) : Except Fault Record := do
  let updatedAt ← record.refreshedAt now
  record.noteAssigned
  return record.withUpdatedAt updatedAt

/-- Stamp a record anew: both times are the given one. -/
def stamp (record : Record) (now signature : Value) : Except Fault Record :=
  match Stamps.checked [] now now signature with
  | .ok stamps => .ok { record with timestamps := stamps.toValue }
  | .error faults => .error (.invalid faults)

/-! ## Creation -/

/-- A new record with a drawn key, stamped with the clock's time and a drawn signature. -/
def create (size storeKey recordKey : Value) (supply : Supply) : Except Fault Record × Supply :=
  match supply.drawId with
  | (.error fault, supply) => (.error fault, supply)
  | (.ok key, supply) =>
    match supply.readClock with
    | (.error fault, supply) => (.error fault, supply)
    | (.ok now, supply) =>
      match supply.drawId with
      | (.error fault, supply) => (.error fault, supply)
      | (.ok signature, supply) =>
        match Stamps.checked [] (.dateTime now) (.dateTime now) signature with
        | .error faults => (.error (.invalid faults), supply)
        | .ok stamps =>
          let fields : Fields :=
            [("key", key), ("size", size), ("status", .status .initializing),
              ("store_key", storeKey), ("record_key", recordKey),
              ("timestamps", stamps.toValue)]
          (ofFields fields, supply)

/-! ## Transitions -/

/-- The lifecycle allows the move to a target. Failure is open to every record; another target is
looked up among the statuses, and the status of the record among those it is entered from. -/
def canTransition (record : Record) (target : Value) : Except Fault Bool :=
  if target.same (.status .error) then .ok true
  else if !target.canBeMember then .error .wrongKind
  else if !record.status.canBeMember then .error .wrongKind
  else
    let sources := [Status.ready, .pendingDeletion].flatMap fun status =>
      if target.same (.status status) then status.enteredFrom else []
    .ok (sources.any fun source => record.status.same (.status source))

/-- The fault of a move that the lifecycle does not allow. If the status has no text, the message
cannot be written, and the fault is that of the status. -/
def refusal (record : Record) (target : Status) : Fault :=
  if record.status.isWritable then .forbidden record.status (.status target) else .unreadable

/-- Move a record to a target. -/
def transition (record : Record) (target : Status) (now : Value) (supply : Supply) :
    Except Fault Record × Supply :=
  match record.canTransition (.status target) with
  | .error fault => (.error fault, supply)
  | .ok false => (.error (record.refusal target), supply)
  | .ok true =>
    match record.createdAt? with
    | .error fault => (.error fault, supply)
    | .ok createdAt =>
      let (time, supply) : Except Fault Value × Supply :=
        if now.isGiven then (.ok now, supply)
        else
          let (time, supply) := supply.readClock
          (time.map Value.dateTime, supply)
      match time with
      | .error fault => (.error fault, supply)
      | .ok time =>
        let moved : Except Fault Record := do
          let updatedAt ← refreshedWithin createdAt time
          record.noteAssigned
          return { record with status := .status target }.withUpdatedAt updatedAt
        (moved, supply)

end Record

end BlobCatalog
