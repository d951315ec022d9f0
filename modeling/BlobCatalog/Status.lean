/-!
# Lifecycle statuses

The five statuses of a record with their numeric codes and names. `Status.ofCode?` finds the status
of a code; codes outside the five have none.
-/

namespace BlobCatalog

/-- Where a record is in its lifecycle. -/
inductive Status where
  | unknown
  | initializing
  | ready
  | pendingDeletion
  | error
deriving DecidableEq, Repr

namespace Status

/-- All statuses in the order of their codes. -/
def all : List Status := [unknown, initializing, ready, pendingDeletion, error]

/-- The numeric code of a status. -/
def code : Status → Nat
  | unknown => 0
  | initializing => 1
  | ready => 2
  | pendingDeletion => 3
  | error => 4

/-- The name of a status in messages and printed records. -/
def name : Status → String
  | unknown => "UNKNOWN"
  | initializing => "INITIALIZING"
  | ready => "READY"
  | pendingDeletion => "PENDING_DELETION"
  | error => "ERROR"

/-- The status with a code. -/
def ofCode? : Int → Option Status
  | 0 => some unknown
  | 1 => some initializing
  | 2 => some ready
  | 3 => some pendingDeletion
  | 4 => some error
  | _ => none

/-- A status is found by its code. -/
theorem ofCode?_code (status : Status) : ofCode? status.code = some status := by
  cases status <;> rfl

/-- The statuses that a status may be entered from by an ordinary transition. -/
def enteredFrom : Status → List Status
  | ready => [initializing]
  | pendingDeletion => [initializing, ready]
  | _ => []

end Status

end BlobCatalog
