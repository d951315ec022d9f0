import BlobCatalog.Command.Request
import BlobCatalog.Record.Lifecycle
import BlobCatalog.Record.Printed
import BlobCatalog.Store

/-!
# Catalogs

A `Catalog` is a store with the place of the objects that its records describe. It serves requests:
`Catalog.create` makes and stores a record, `Catalog.load` finds one by the text of its key, and
`Catalog.act` shows it, moves it or removes it. Each of the three asks the store once, so that
others may change the table between loading a record and acting on it; `Catalog.serve` runs a
request with nobody in between.
-/

namespace BlobCatalog

open BlobCatalog.Text

/-- A store of records and the place of their objects. -/
structure Catalog where
  store : Store
  locator : Locator

/-- What a request comes to: the line it prints, the table and the supply after it, and what was
logged. -/
structure Service where
  outcome : Except Fault String
  table : Table
  supply : Supply
  log : List LogEntry

/-- A stored record that was found by its key. -/
structure Loaded where
  key : Uuid
  blob : Blob

namespace Catalog

/-- A request that ends without asking the store for a change. -/
def unchanged (outcome : Except Fault String) (table : Table) (supply : Supply) : Service :=
  ⟨outcome, table, supply, []⟩

/-- The value of a switch. A switch without one gives an empty list. -/
def switchValue (value? : Option Value) : Value := value?.getD (.list [])

/-- Create a record, store it and print it. -/
def create (catalog : Catalog) (size : Option Nat) (storeKey recordKey : Option Text)
    (table : Table) (supply : Supply) : Service :=
  let size := switchValue (size.map fun number => .integer number)
  let storeKey := switchValue (storeKey.map Value.text)
  let recordKey := switchValue (recordKey.map Value.text)
  match Record.create size storeKey recordKey supply with
  | (.error fault, supply) => unchanged (.error fault) table supply
  | (.ok record, supply) =>
    let effect := catalog.store.insert record table
    let outcome := effect.outcome.bind fun _ => record.printed catalog.locator
    ⟨outcome, effect.table, supply, effect.log⟩

/-- Find a stored record by the text of its key. -/
def load (catalog : Catalog) (text : Text) (table : Table) : Except Fault Loaded := do
  let key ← Key.identifierOf (.text text)
  match ← catalog.store.fetch (.uuid key) table with
  | some blob => return ⟨key, blob⟩
  | none => throw (.notFound (.uuid key))

/-- The line that confirms a purge. -/
def purgedLine (key : Uuid) : String :=
  Json.render (.object [("key", .text key.text), ("purged", .boolean true)])

/-- Remove a loaded record whose deletion is pending. -/
def purge (catalog : Catalog) (loaded : Loaded) (table : Table) (supply : Supply) : Service :=
  if loaded.blob.status = .pendingDeletion then
    let effect := catalog.store.delete (.uuid loaded.key) table
    ⟨effect.outcome.map fun _ => purgedLine loaded.key, effect.table, supply, effect.log⟩
  else unchanged (.error (.notPurgeable loaded.key loaded.blob.status)) table supply

/-- Move a loaded record in its lifecycle, save it and print it. -/
def move (catalog : Catalog) (move : Move) (loaded : Loaded) (table : Table) (supply : Supply) :
    Service :=
  match loaded.blob.toRecord.transition move.target .absent supply with
  | (.error fault, supply) => unchanged (.error fault) table supply
  | (.ok record, supply) =>
    let update := catalog.store.update record table supply
    let outcome := update.outcome.bind fun _ => update.record.printed catalog.locator
    ⟨outcome, update.table, update.supply, update.log⟩

/-- Act on a loaded record. -/
def act (catalog : Catalog) (action : Action) (loaded : Loaded) (table : Table)
    (supply : Supply) : Service :=
  match action with
  | .inspect => unchanged (loaded.blob.toRecord.printed catalog.locator) table supply
  | .move chosen => catalog.move chosen loaded table supply
  | .purge => catalog.purge loaded table supply

/-- Serve a request from beginning to end. -/
def serve (catalog : Catalog) (request : Request) (table : Table) (supply : Supply) : Service :=
  match request with
  | .create size storeKey recordKey => catalog.create size storeKey recordKey table supply
  | .manage action text =>
    match catalog.load text table with
    | .error fault => unchanged (.error fault) table supply
    | .ok loaded => catalog.act action loaded table supply

end Catalog

end BlobCatalog
