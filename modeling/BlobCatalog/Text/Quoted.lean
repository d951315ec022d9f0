import BlobCatalog.Text
import BlobCatalog.Text.Integer
import BlobCatalog.Text.Printable

/-!
# Quoted text

Text and bytes as messages show them, in quotes. The quotes are single unless the content has a
single quote and no double one; the quote in use and the backslash are escaped, as is every code
point that is not printable.
-/

namespace BlobCatalog.Text

/-- The quote that surrounds a content. -/
def quoteFor (hasSingle hasDouble : Bool) : Char :=
  if hasSingle && !hasDouble then '"' else '\''

/-- The escape of a code point with two, four or eight hexadecimal digits. -/
def escapeCode (code : Nat) : List Char :=
  if code < 0x100 then '\\' :: 'x' :: paddedHex 2 code
  else if code < 0x10000 then '\\' :: 'u' :: paddedHex 4 code
  else '\\' :: 'U' :: paddedHex 8 code

/-- The escape of a character that has one of its own inside the given quotes. -/
def shortEscape? (quote : Char) (code : Nat) : Option (List Char) :=
  if code = quote.toNat ∨ code = '\\'.toNat then some ['\\', Char.ofNat code]
  else if code = 9 then some ['\\', 't']
  else if code = 10 then some ['\\', 'n']
  else if code = 13 then some ['\\', 'r']
  else none

/-- A character inside the given quotes. -/
def quotedChar (quote c : Char) : List Char :=
  match shortEscape? quote c.toNat with
  | some escape => escape
  | none => if isPrintable c then [c] else escapeCode c.toNat

/-- A code point inside the given quotes. -/
def quotedPoint (quote : Char) : Point → List Char
  | .char c => quotedChar quote c
  | .surrogate place => escapeCode (Point.surrogate place).code

/-- A text in quotes. -/
def quoted (text : Text) : String :=
  let quote := quoteFor (text.points.contains (.char '\'')) (text.points.contains (.char '"'))
  String.ofList (quote :: (text.points.flatMap (quotedPoint quote) ++ [quote]))

/-- A text as it is printed, with its surrogates escaped. -/
def displayed (text : Text) : String :=
  String.ofList (text.points.flatMap fun
    | .char c => [c]
    | .surrogate place => escapeCode (Point.surrogate place).code)

/-- A byte inside the given quotes. -/
def quotedByte (quote : Char) (byte : UInt8) : List Char :=
  match shortEscape? quote byte.toNat with
  | some escape => escape
  | none =>
    if 0x20 ≤ byte.toNat ∧ byte.toNat < 0x7f then [Char.ofNat byte.toNat]
    else escapeCode byte.toNat

/-- Bytes in quotes, marked with `b`. -/
def quotedBytes (bytes : List UInt8) : String :=
  let quote := quoteFor (bytes.contains 0x27) (bytes.contains 0x22)
  String.ofList ('b' :: quote :: (bytes.flatMap (quotedByte quote) ++ [quote]))

/-- The text that bytes encode, unless they are malformed. -/
def decodeBytes? (bytes : List UInt8) : Option String :=
  String.fromUTF8? bytes.toByteArray

end BlobCatalog.Text
