import BlobCatalog.Calendar.Iso
import BlobCatalog.Fault

/-!
# Cells

What a column of a table holds: nothing, an integer of 64 bits, a number, a text or bytes. Another
program may have left a text whose bytes encode none. Values are bound to cells (`Cell.ofValue`),
and a column turns what is bound to it towards its own kind: a text column writes numbers down
(`Cell.asText`), an integer column reads numeric text and drops fractions that are zero
(`Cell.asInteger`).
-/

namespace BlobCatalog

/-- Bytes that are kept as a text and encode none. -/
structure GarbledText where
  bytes : List UInt8
  isGarbled : Text.decodeBytes? bytes = none
deriving DecidableEq

/-- The content of one column of a row. -/
inductive Cell where
  | null
  | integer (value : Int)
  | real (value : Float)
  | text (content : String)
  | garbled (content : GarbledText)
  | blob (content : List UInt8)
deriving DecidableEq

namespace Cell

/-- Two to the power of 63, which no integer reaches. -/
def limit : Int := 0x8000000000000000

/-- An integer has 64 bits with its sign. -/
def fits (number : Int) : Bool := -limit ≤ number && number < limit

/-- An integer as a cell, if it fits. -/
def ofInteger (number : Int) : Except Fault Cell :=
  if fits number then .ok (.integer number) else .error .outOfRange

/-- The cell that a text is bound to, if it can be encoded. -/
def ofText (given : Text) : Except Fault Cell :=
  match given.string? with
  | some content => .ok (.text content)
  | none => .error .unencodable

theorem ofText_of_isString {given : Text} (found : given.IsString) :
    ofText given = .ok (.text given.string) := by
  rw [ofText, Text.string?_of_isString found]

theorem ofText_of_not_isString {given : Text} (lacking : ¬given.IsString) :
    ofText given = .error .unencodable := by
  rw [ofText, Text.string?_of_not_isString lacking]

@[simp] theorem ofText_ofString (content : String) :
    ofText (.ofString content) = .ok (.text content) := by
  simp [ofText]

/-- The cell that a text or nothing is bound to. -/
def ofText? : Option Text → Except Fault Cell
  | some content => ofText content
  | none => .ok .null

/-- The cell that a value is bound to. Times and dates are bound as text, truth values and statuses
as integers; what is not a number is bound as nothing. -/
def ofValue : Value → Except Fault Cell
  | .absent => .ok .null
  | .float value => .ok (if Binary64.isNaN value then .null else .real value)
  | .text content => ofText content
  | .bytes content => .ok (.blob content)
  | .dateTime value => .ok (.text value.spacedText)
  | .date value => .ok (.text value.isoText)
  | other =>
    match other.integer? with
    | some number => ofInteger number
    | none => .error .unbindable

/-- The value that a cell holds. Of a garbled text there are the bytes only. -/
def toValue : Cell → Value
  | null => .absent
  | integer value => .integer value
  | real value => .float value
  | text content => .text content
  | garbled content => .bytes content.bytes
  | blob content => .bytes content

/-- The cell holds a garbled text. -/
def isGarbled : Cell → Bool
  | garbled _ => true
  | _ => false

@[simp] theorem isGarbled_integer (value : Int) : (integer value).isGarbled = false := rfl

@[simp] theorem isGarbled_text (content : String) : (text content).isGarbled = false := rfl

/-- A string or nothing as a cell. -/
def ofString? : Option String → Cell
  | some content => .text content
  | none => .null

/-! ## Columns of one kind -/

/-- A cell in a text column. -/
def asText : Cell → Cell
  | integer value => .text (Text.integerText value)
  | real value => .text (Binary64.columnText value)
  | other => other

/-- A number in an integer column: an integer if it is whole and inside the range, its ends left
out. -/
def wholeOrReal (value : Float) : Cell :=
  match Binary64.whole? value with
  | some number =>
    if -limit < number ∧ number < limit - 1 then .integer number else .real value
  | none => .real value

/-- A decimal in an integer column. -/
def ofDecimal (decimal : Binary64.Decimal) : Cell :=
  let number := Text.signed decimal.negative decimal.coefficient
  if !decimal.fractional && fits number then .integer number
  else wholeOrReal (Binary64.ofDecimal decimal)

/-- A cell in an integer column. -/
def asInteger : Cell → Cell
  | real value => wholeOrReal value
  | text content =>
    match Binary64.takeDecimal? (Text.trim Text.isAsciiBlank content.toList) with
    | some (decimal, []) => ofDecimal decimal
    | _ => .text content
  | other => other

/-! ## Order -/

/-- Cells in their order: nothing, numbers, texts, bytes. -/
def rank : Cell → Nat
  | null => 0
  | integer _ | real _ => 1
  | text _ | garbled _ => 2
  | blob _ => 3

/-- A cell does not come after another. Texts are compared by their bytes where one is garbled. -/
def isAtMost : Cell → Cell → Bool
  | text left, text right => decide (left ≤ right)
  | text left, garbled right => decide (left.toUTF8.toList ≤ right.bytes)
  | garbled left, text right => decide (left.bytes ≤ right.toUTF8.toList)
  | garbled left, garbled right => decide (left.bytes ≤ right.bytes)
  | blob left, blob right => decide (left ≤ right)
  | integer left, integer right => decide (left ≤ right)
  | left, right => decide (left.rank ≤ right.rank)

end Cell

end BlobCatalog
