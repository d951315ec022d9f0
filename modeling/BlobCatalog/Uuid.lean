import BlobCatalog.Text
import BlobCatalog.Text.Integer

/-!
# Identifiers

A `Uuid` is a number below `2 ^ 128`. It is written as 32 lower-case hexadecimal digits in five
groups (`Uuid.text`) and read in two ways. `Uuid.ofText?` reads the name of a stored record: marks,
braces and hyphens are dropped wherever they stand and the 32 characters left are a liberal number
in base sixteen. `Uuid.ofField?` reads the text of a record field, in one of four fixed forms.
-/

namespace BlobCatalog

/-- An identifier of 128 bits. -/
structure Uuid where
  value : Nat
  small : value < Nat.pow 2 128
deriving DecidableEq

namespace Uuid

/-- The identifier with a given number, if it is small enough. -/
def ofNat? (value : Nat) : Option Uuid :=
  if small : value < Nat.pow 2 128 then some ⟨value, small⟩ else none

/-- Sixteen bytes as an identifier, most significant first. -/
def ofBytes? (bytes : List UInt8) : Option Uuid :=
  if bytes.length = 16 then ofNat? (Text.ofDigits 256 (bytes.map UInt8.toNat)) else none

/-- A byte of random bits with the marks of a random identifier at its place. -/
def markedByte (place : Nat) (byte : UInt8) : UInt8 :=
  match place with
  | 6 => byte % 0x10 + 0x40
  | 8 => byte % 0x40 + 0x80
  | _ => byte

/-- The random identifier that sixteen random bytes give. -/
def ofRandomBytes? (bytes : List UInt8) : Option Uuid := ofBytes? (bytes.mapIdx markedByte)

/-! ## Writing -/

/-- The 32 hexadecimal digits of an identifier. -/
def digits (uuid : Uuid) : List Char := Text.paddedHex 32 uuid.value

/-- Digits in groups of 8, 4, 4, 4 and 12 with hyphens between them. -/
def hyphenated (digits : List Char) : List Char :=
  digits.take 8 ++ '-' :: ((digits.drop 8).take 4 ++ '-' :: ((digits.drop 12).take 4 ++
    '-' :: ((digits.drop 16).take 4 ++ '-' :: digits.drop 20)))

/-- The text of an identifier. -/
def chars (uuid : Uuid) : List Char := hyphenated uuid.digits

/-- The text of an identifier. -/
def text (uuid : Uuid) : String := String.ofList uuid.chars

/-! ## Reading the name of a record -/

/-- The rest of a text after a mark at its front. -/
def afterMark? : List Char → List Char → Option (List Char)
  | [], text => some text
  | _ :: _, [] => none
  | wanted :: mark, c :: text => if c = wanted then afterMark? mark text else none

theorem length_afterMark? {mark text rest : List Char} (found : afterMark? mark text = some rest) :
    rest.length + mark.length = text.length := by
  induction mark generalizing text with
  | nil => simp [afterMark?] at found; simp [found]
  | cons wanted mark ih =>
    cases text with
    | nil => simp [afterMark?] at found
    | cons c text =>
      simp only [afterMark?] at found
      split at found
      · have := ih found; simp only [List.length_cons]; omega
      · simp at found

/-- A text without the occurrences of a mark, taken from left to right. -/
def dropMark (mark : List Char) : List Char → List Char
  | [] => []
  | c :: text =>
    match _found : afterMark? mark (c :: text) with
    | some rest => if _shorter : mark = [] then c :: text else dropMark mark rest
    | none => c :: dropMark mark text
termination_by text => text.length
decreasing_by
  · have := length_afterMark? _found
    have : 0 < mark.length := List.length_pos_iff.mpr _shorter
    simp only [List.length_cons] at *
    omega
  · simp

/-- A brace. -/
def isBrace (c : Char) : Bool := c == '\x7b' || c == '\x7d'

/-- A text without the marks `urn:` and `uuid:`, braces at its ends and hyphens. -/
def bare (text : List Char) : List Char :=
  let unmarked := dropMark "uuid:".toList (dropMark "urn:".toList text)
  (Text.trim isBrace unmarked).filter (· != '-')

/-- The identifier that the name of a record stands for. -/
def ofChars? (text : List Char) : Option Uuid :=
  let body := bare text
  if body.length = 32 then Text.readHex? body >>= ofNat? else none

/-- The identifier that the name of a record stands for. -/
def ofText? (text : Text) : Option Uuid := text.chars?.bind ofChars?

/-! ## Reading a record field -/

/-- Strict hexadecimal digits as an identifier. -/
def ofStrictDigits? (digits : List Char) : Option Uuid := do
  let values ← digits.mapM Text.asciiHexDigit?
  if values.length = 32 then ofNat? (Text.ofDigits 16 values) else none

/-- An identifier in five groups with hyphens between them. -/
def ofHyphenated? (text : List Char) : Option Uuid :=
  let digits := text.filter (· != '-')
  if digits.length = 32 ∧ hyphenated digits = text then ofStrictDigits? digits else none

/-- The identifier that the text of a record field stands for: 32 digits, the hyphenated form, that
form in braces or after `urn:uuid:`. -/
def ofField? (text : String) : Option Uuid :=
  let chars := text.toList
  match chars.length with
  | 32 => ofStrictDigits? chars
  | 36 => ofHyphenated? chars
  | 38 =>
    if chars.head? = some '\x7b' ∧ chars.getLast? = some '\x7d' then
      ofHyphenated? ((chars.drop 1).take 36)
    else none
  | 45 => (afterMark? "urn:uuid:".toList chars).bind ofHyphenated?
  | _ => none

end Uuid

end BlobCatalog
