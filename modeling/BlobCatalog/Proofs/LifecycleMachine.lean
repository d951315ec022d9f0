import BlobCatalog.Catalog
import BlobCatalog.Proofs.PrintedLine
import BlobCatalog.Proofs.StoreRoundTrip
import BlobCatalog.Proofs.TypedLifecycle
import BlobCatalog.Proofs.UpdateOutcome
import Mathlib.Data.Finmap

/-!
# The lifecycle machine

What commands come to, told without rows, signatures that are compared, or texts that are read back.
A `Machine` has a finite map from keys to records and the identifiers and times that come next.
`Machine.serve` answers one command: a creation adds an initializing record, a move changes the
status, the last update and the signature of a record along an edge of the lifecycle, a purge
removes a record that awaits deletion, and everything else is refused and changes nothing. Showing a
record right after it was created or moved gives the same answer again (`Machine.serve_inspect`).
-/

namespace BlobCatalog

open Calendar (DateTime)

/-! ## Commands and answers -/

/-- A command with all that it is given. -/
inductive Command where
  | create (size : Nat) (storeKey recordKey : Text)
  | manage (action : Action) (text : Text)

namespace Command

/-- The request that a command makes. -/
def request : Command → Request
  | create size storeKey recordKey => .create (some size) (some storeKey) (some recordKey)
  | manage action text => .manage action text

/-- The size of a new record is an integer of 64 bits, and its texts are strings. -/
def Fits : Command → Prop
  | create size storeKey recordKey =>
    size < Nat.pow 2 63 ∧ storeKey.IsString ∧ recordKey.IsString
  | manage _ _ => True

end Command

/-- What a command answers: its exit code and what it prints. -/
structure Answer where
  code : Nat
  output : String

namespace Answer

/-- A command succeeds and prints a line. -/
def printed (line : String) : Answer := ⟨0, line ++ "\n"⟩

/-- A command is refused and prints nothing. -/
def refused : Answer := ⟨1, ""⟩

end Answer

/-! ## The machine -/

/-- Records by their keys. -/
abbrev Ledger := Finmap fun _ : Uuid => Blob

/-- The records, the identifiers that are drawn next and the times that the clock shows next. -/
structure Machine where
  ledger : Ledger
  ids : Nat → Uuid
  times : Nat → DateTime

namespace Machine

/-- The machine without records. -/
def start (ids : Nat → Uuid) (times : Nat → DateTime) : Machine := ⟨∅, ids, times⟩

/-- The machine with other records, after a number of identifiers were drawn and the clock was read
once. -/
def advance (machine : Machine) (ledger : Ledger) (drawn : Nat) : Machine :=
  ⟨ledger, fun draw => machine.ids (draw + drawn), fun tick => machine.times (tick + 1)⟩

/-- The record that a creation makes now. -/
def created (machine : Machine) (size : Nat) (storeKey recordKey : Text) : Blob :=
  .created (machine.ids 0) (machine.ids 1) (machine.times 0) size storeKey recordKey

/-- A record after a move that is saved now. -/
def moved (machine : Machine) (blob : Blob) (chosen : Move) : Blob :=
  (blob.moved chosen.target (machine.times 0)).signed (machine.ids 0)

/-- The answer to an action on the record of a key, and the machine after it. -/
def act (machine : Machine) (locator : Locator) (action : Action) (key : Uuid) (blob : Blob) :
    Answer × Machine :=
  match action with
  | .inspect => (.printed (blob.line key locator), machine)
  | .move chosen =>
    if blob.status.Edge chosen.target then
      (.printed ((machine.moved blob chosen).line key locator),
        machine.advance (machine.ledger.insert key (machine.moved blob chosen)) 1)
    else (.refused, machine)
  | .purge =>
    if blob.status = .pendingDeletion then
      (.printed (Catalog.purgedLine key), { machine with ledger := machine.ledger.erase key })
    else (.refused, machine)

/-- The answer to a command, and the machine after it. -/
def serve (machine : Machine) (locator : Locator) : Command → Answer × Machine
  | .create size storeKey recordKey =>
    let blob := machine.created size storeKey recordKey
    (.printed (blob.line (machine.ids 0) locator),
      machine.advance (machine.ledger.insert (machine.ids 0) blob) 2)
  | .manage action text =>
    match Uuid.ofText? text with
    | none => (.refused, machine)
    | some key =>
      match machine.ledger.lookup key with
      | none => (.refused, machine)
      | some blob => machine.act locator action key blob

/-- The machine after some commands. -/
def run (machine : Machine) (locator : Locator) (commands : List Command) : Machine :=
  commands.foldl (fun machine command => (machine.serve locator command).2) machine

/-! ## Showing a record again -/

/-- The key of the record that a command makes or moves. -/
def target? (machine : Machine) : Command → Option Uuid
  | .create _ _ _ => some (machine.ids 0)
  | .manage (.move _) text => Uuid.ofText? text
  | .manage _ _ => none

/-- The record that was put under a key is shown under it. -/
theorem serve_inspect_advance {machine : Machine} {key : Uuid} {text : Text}
    (htext : Uuid.ofText? text = some key) (locator : Locator) (blob : Blob) (drawn : Nat) :
    ((machine.advance (machine.ledger.insert key blob) drawn).serve locator
      (.manage .inspect text)).1 = .printed (blob.line key locator) := by
  have hlookup : (machine.advance (machine.ledger.insert key blob) drawn).ledger.lookup key =
      some blob := Finmap.lookup_insert _
  simp only [serve, htext, hlookup, act]

/-- **A record is shown as the command that made or moved it has printed it.** -/
theorem serve_inspect {machine : Machine} {locator : Locator} {command : Command} {key : Uuid}
    {text : Text} (htarget : machine.target? command = some key)
    (hcode : (machine.serve locator command).1.code = 0) (htext : Uuid.ofText? text = some key) :
    ((machine.serve locator command).2.serve locator (.manage .inspect text)).1 =
      (machine.serve locator command).1 := by
  -- A refused command has another code.
  have hrefused : (Answer.refused).code ≠ 0 := by decide
  cases command with
  | create size storeKey recordKey =>
    obtain rfl := Option.some.inj htarget
    exact serve_inspect_advance htext locator _ 2
  | manage action moved =>
    cases action with
    | inspect => exact absurd htarget (by simp [target?])
    | purge => exact absurd htarget (by simp [target?])
    | move chosen =>
      have hmoved : Uuid.ofText? moved = some key := htarget
      cases hlookup : machine.ledger.lookup key with
      | none =>
        simp only [serve, hmoved, hlookup] at hcode
        exact absurd hcode hrefused
      | some blob =>
        by_cases hedge : blob.status.Edge chosen.target
        · simp only [serve, hmoved, hlookup, act, if_pos hedge]
          exact serve_inspect_advance htext locator _ 1
        · simp only [serve, hmoved, hlookup, act, if_neg hedge] at hcode
          exact absurd hcode hrefused

end Machine

/-! ## Records of the machine -/

/-- A record of the machine: it has its key, its texts are strings, and its times have offsets, are
read as they are and are in order. -/
structure Blob.IsEntry (blob : Blob) (key : Uuid) : Prop where
  key_eq : blob.key = some key
  encodable : blob.IsEncodable
  aware : blob.stamps.AreAware
  recorded : blob.stamps.AreRecorded
  settle_eq : blob.stamps.settle = blob.stamps

namespace Blob.IsEntry

variable {blob : Blob} {key : Uuid}

theorem of_created {now : DateTime} (h : now.isAware = true) (hrecorded : now.recorded = now)
    (key signature : Uuid) (size : Nat) {storeKey recordKey : Text}
    (hstoreKey : storeKey.IsString) (hrecordKey : recordKey.IsString) :
    (Blob.created key signature now size storeKey recordKey).IsEntry key := by
  refine ⟨rfl, ⟨hstoreKey, hrecordKey⟩, ⟨?_, ?_⟩, ⟨?_, ?_⟩, Stamps.settle_of_not_isReversed ?_⟩
  · rintro _ ⟨⟩
    exact h
  · rintro _ ⟨⟩
    exact h
  · rintro _ ⟨⟩
    exact hrecorded
  · rintro _ ⟨⟩
    exact hrecorded
  · rintro ⟨_, ⟨⟩, _, ⟨⟩, hearlier⟩
    exact now.not_isBefore_self hearlier

theorem moved (h : blob.IsEntry key) {now : DateTime} (hnow : now.isAware = true)
    (hrecorded : now.recorded = now) (target : Status) (id : Uuid) :
    ((blob.moved target now).signed id).IsEntry key := by
  have hsettled : (⟨blob.stamps.createdAt, some now, some id⟩ : Stamps).AreRecorded :=
    ⟨h.recorded.1, by rintro _ ⟨⟩; exact hrecorded⟩
  refine ⟨h.key_eq, h.encodable, Blob.areAware_moved h.aware hnow target, hsettled.settle, ?_⟩
  have hstamps : ((blob.moved target now).signed id).stamps =
      Stamps.settle ⟨blob.stamps.createdAt, some now, some id⟩ := rfl
  rw [hstamps]
  apply Stamps.settle_of_not_isReversed
  exact Stamps.not_isReversed_settle ⟨h.aware.1, by rintro _ ⟨⟩; exact hnow⟩

end Blob.IsEntry

end BlobCatalog
