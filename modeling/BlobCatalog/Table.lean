import BlobCatalog.Table.Cell

/-!
# Tables

A table of stored records. A row has nine columns; the first six may not be empty, and no two rows
share kind and name. Rows are found by kind and name (`Table.find?`), added (`Table.insert`),
changed in three columns while their signature is still the expected one (`Table.update`), and
removed (`Table.erase`).
-/

namespace BlobCatalog

/-- A row of the table, as given or as stored. -/
structure Row where
  kind : Cell
  name : Cell
  size : Cell
  status : Cell
  storeKey : Cell
  recordKey : Cell
  createdAt : Cell
  updatedAt : Cell
  signature : Cell
deriving DecidableEq

namespace Row

/-- A row as its columns keep it. -/
def stored (row : Row) : Row :=
  { kind := row.kind.asText
    name := row.name.asText
    size := row.size.asInteger
    status := row.status.asInteger
    storeKey := row.storeKey.asText
    recordKey := row.recordKey.asText
    createdAt := row.createdAt.asText
    updatedAt := row.updatedAt.asText
    signature := row.signature.asText }

/-- The cells of a row in the order of the columns. -/
def cells (row : Row) : List Cell :=
  [row.kind, row.name, row.size, row.status, row.storeKey, row.recordKey, row.createdAt,
    row.updatedAt, row.signature]

/-- The columns that need a content have one. -/
def isComplete (row : Row) : Bool :=
  [row.kind, row.name, row.size, row.status, row.storeKey, row.recordKey].all (· != .null)

/-- The row is the one of a kind and a name. An empty kind or name is that of no row. -/
def isAt (row : Row) (kind name : Cell) : Bool :=
  kind != .null && name != .null && row.kind == kind && row.name == name

/-- A row does not come after another, by kind and then by name. -/
def isAtMost (left right : Row) : Bool :=
  if left.kind = right.kind then left.name.isAtMost right.name
  else left.kind.isAtMost right.kind

end Row

/-- The stored rows, in the order they were added. -/
structure Table where
  rows : List Row
deriving DecidableEq

namespace Table

/-- The table without rows. -/
def empty : Table := ⟨[]⟩

/-- The row of a kind and a name, as bound. -/
def find? (table : Table) (kind name : Cell) : Option Row :=
  table.rows.find? fun row => row.isAt kind.asText name.asText

/-- The table with one more row, unless that row is incomplete or its place is taken. -/
def insert? (table : Table) (row : Row) : Option Table :=
  let row := row.stored
  if row.isComplete && (table.rows.all fun other => !other.isAt row.kind row.name) then
    some ⟨table.rows ++ [row]⟩
  else none

/-- The new content of the columns that an update writes. -/
structure Change where
  status : Cell
  updatedAt : Cell
  signature : Cell

/-- A row after a change. -/
def Change.apply (change : Change) (row : Row) : Row :=
  { row with
    status := change.status.asInteger
    updatedAt := change.updatedAt.asText
    signature := change.signature.asText }

/-- The row is the one of a kind and a name and carries the expected signature. -/
def isExpected (kind name signature : Cell) (row : Row) : Bool :=
  row.isAt kind.asText name.asText && row.signature == signature.asText

/-- The table after a change to the row of a kind and a name, if it carries the expected
signature. -/
def update? (table : Table) (kind name signature : Cell) (change : Change) : Option Table :=
  if table.rows.any (isExpected kind name signature) then
    some ⟨table.rows.map fun row =>
      if isExpected kind name signature row then change.apply row else row⟩
  else none

/-- The table without the row of a kind and a name. -/
def erase (table : Table) (kind name : Cell) : Table :=
  ⟨table.rows.filter fun row => !row.isAt kind.asText name.asText⟩

/-- The rows by kind and name. -/
def sorted (table : Table) : List Row := table.rows.mergeSort Row.isAtMost

end Table

end BlobCatalog
