import BlobCatalog.Table
import BlobCatalog.Text.Pieces

/-!
# Saved tables

A table as the text of a file: one row on a line, its nine cells with a blank between them. The
first character of a cell names its kind; integers follow in base ten, everything else as pairs of
hexadecimal digits, one pair a byte. `Table.saved` writes the text and `Table.ofSaved?` reads it.
-/

namespace BlobCatalog

open BlobCatalog.Text

/-! ## Bytes -/

/-- Bytes as pairs of hexadecimal digits. -/
def pairsOf (bytes : List UInt8) : List Char := bytes.flatMap fun byte => paddedHex 2 byte.toNat

/-- The bytes that pairs of hexadecimal digits stand for. -/
def bytesOfPairs? : List Char → Option (List UInt8)
  | [] => some []
  | high :: low :: rest => do
    let high ← asciiHexDigit? high
    let low ← asciiHexDigit? low
    return UInt8.ofNat (16 * high + low) :: (← bytesOfPairs? rest)
  | [_] => none

namespace Cell

/-- The saved text of a cell. -/
def saved : Cell → List Char
  | null => ['n']
  | integer value => 'i' :: (integerText value).toList
  | real value => 'r' :: paddedHex 16 value.toBits.toNat
  | text content => 't' :: pairsOf content.toUTF8.toList
  | garbled content => 't' :: pairsOf content.bytes
  | blob content => 'b' :: pairsOf content

/-- The cell of a text that is kept in the given bytes. -/
def ofTextBytes (bytes : List UInt8) : Cell :=
  match isText : decodeBytes? bytes with
  | some content => .text content
  | none => .garbled ⟨bytes, isText⟩

/-- The cell of a saved text. -/
def ofSaved? : List Char → Option Cell
  | ['n'] => some .null
  | 'i' :: rest => (readDecimal? rest).map .integer
  | 'r' :: rest => do
    let bytes ← bytesOfPairs? rest
    return .real (Float.ofBits (UInt64.ofNat (ofDigits 256 (bytes.map UInt8.toNat))))
  | 't' :: rest => (bytesOfPairs? rest).map ofTextBytes
  | 'b' :: rest => (bytesOfPairs? rest).map .blob
  | _ => none

end Cell

namespace Row

/-- The row with the given cells in the order of the columns. -/
def ofCells? : List Cell → Option Row
  | [kind, name, size, status, storeKey, recordKey, createdAt, updatedAt, signature] =>
    some { kind, name, size, status, storeKey, recordKey, createdAt, updatedAt, signature }
  | _ => none

/-- A row is that of its cells. -/
theorem ofCells?_cells (row : Row) : ofCells? row.cells = some row := rfl

end Row

/-! ## Tables -/

namespace Table

/-- The saved text of a table. -/
def saved (table : Table) : String :=
  String.ofList (table.rows.flatMap fun row =>
    [' '].intercalate (row.cells.map Cell.saved) ++ ['\n'])

/-- The row of a saved line. -/
def rowOfSaved? (line : List Char) : Option Row :=
  (pieces ' ' line).mapM Cell.ofSaved? >>= Row.ofCells?

/-- The table of a saved text. -/
def ofSaved? (text : String) : Option Table :=
  (((pieces '\n' text.toList).filter (!·.isEmpty)).mapM rowOfSaved?).map Table.mk

end Table

end BlobCatalog
