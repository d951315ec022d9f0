import BlobCatalog.Record.Lifecycle

/-!
# Changes in place

`Record.transition` gives a new record or a fault. The holder of a record has it changed in place
instead, and what was changed before a fault would stay. A `Procedure` is made of such steps: it
stops at the first fault and keeps the record as it is by then. `moveInPlace` is a move as a
procedure: it finds out what to write (`resolve`) and then writes the status and the last update
(`write`). `touchInPlace` writes the last update alone. An assignment to a field of the time stamps
is two steps (`assignStamp`), as the second one, the noting of what was set, may fail after the
first.
-/

namespace BlobCatalog

/-- The lifecycle allows the move of a record to a target, or it refuses it. -/
def Record.permit (record : Record) (target : Status) : Except Fault Unit :=
  match record.canTransition (.status target) with
  | .error fault => .error fault
  | .ok false => .error (record.refusal target)
  | .ok true => .ok ()

/-- The time that a move is made at: the given one, or the clock's if none is given. -/
def Supply.timeOr (supply : Supply) (now : Value) : Except Fault Value × Supply :=
  if now.isGiven then (.ok now, supply)
  else (supply.readClock.1.map Value.dateTime, supply.readClock.2)

/-- A record in the hands of its holder, with the supply at hand. -/
structure Holding where
  record : Record
  supply : Supply

/-- Steps on a held record. They stop at the first fault, and what they changed by then stays. -/
abbrev Procedure (α : Type) := EStateM Fault Holding α

namespace Procedure

variable {α : Type}

/-- What a procedure leaves to the holder, whether it fails or not. -/
def left : EStateM.Result Fault Holding α → Holding
  | .ok _ after => after
  | .error _ after => after

/-! ## Steps -/

/-- Read something off the record. -/
def examine (read : Record → Except Fault α) : Procedure α := fun held =>
  match read held.record with
  | .ok value => .ok value held
  | .error fault => .error fault held

/-- Assign to the record. -/
def change (assign : Record → Except Fault Record) : Procedure Unit := fun held =>
  match assign held.record with
  | .ok record => .ok () { held with record }
  | .error fault => .error fault held

/-- Take the given time, or read the clock. -/
def takeTime (now : Value) : Procedure Value := fun held =>
  match held.supply.timeOr now with
  | (.ok time, supply) => .ok time { held with supply }
  | (.error fault, supply) => .error fault { held with supply }

/-- Assign to a field of the time stamps and note that it was set. Names that are nobody's fields
are not noted. -/
def assignStamp (field : String) (value : Value) : Procedure Unit := do
  change fun record => record.assignStamp field value
  if Record.isPrivateName field then pure () else examine Record.noteAssigned

/-! ## Moves and refreshes -/

/-- Find out the last update that a move has to write. -/
def resolve (target : Status) (now : Value) : Procedure Value := do
  examine fun record => record.permit target
  let createdAt ← examine Record.createdAt?
  let time ← takeTime now
  examine fun _ => refreshedWithin createdAt time

/-- Write a status and a last update. -/
def write (target : Status) (updatedAt : Value) : Procedure Unit := do
  change fun record => record.assign "status" (.status target)
  assignStamp "updated_at" updatedAt

/-- Move a held record to a target. -/
def moveInPlace (target : Status) (now : Value) : Procedure Unit := do
  let updatedAt ← resolve target now
  write target updatedAt

/-- Refresh the last update of a held record. -/
def touchInPlace (now : Value) : Procedure Unit := do
  let updatedAt ← examine fun record => record.refreshedAt now
  assignStamp "updated_at" updatedAt

end Procedure

end BlobCatalog
