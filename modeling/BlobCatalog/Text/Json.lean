import BlobCatalog.Text
import BlobCatalog.Text.Integer

/-!
# JSON on one line

A `Json` tree and its text in printable ASCII characters, with a blank after each comma and colon.
Object members keep the order they are given in; code points beyond ASCII are escaped as one or two
sixteen-bit units. A surrogate is the one unit that it is.
-/

namespace BlobCatalog.Text

/-- A JSON tree. Numbers that are not integers are kept as text. -/
inductive Json where
  | null
  | boolean (value : Bool)
  | integer (value : Int)
  | number (text : String)
  | text (content : Text)
  | array (items : List Json)
  | object (members : List (String × Json))

namespace Json

/-- The escape of a sixteen-bit unit. -/
def escapeUnit (unit : Nat) : List Char :=
  '\\' :: 'u' :: paddedHex 4 unit

/-- The escape of a code point: one unit, or a pair beyond the basic plane. -/
def escapeCode (code : Nat) : List Char :=
  if code < 0x10000 then escapeUnit code
  else
    let rest := code - 0x10000
    escapeUnit (0xd800 + rest / 0x400) ++ escapeUnit (0xdc00 + rest % 0x400)

/-- A character inside a JSON string. -/
def stringChar (c : Char) : List Char :=
  if c = '"' then ['\\', '"']
  else if c = '\\' then ['\\', '\\']
  else if c = '\n' then ['\\', 'n']
  else if c = '\r' then ['\\', 'r']
  else if c = '\t' then ['\\', 't']
  else if c.toNat = 0x8 then ['\\', 'b']
  else if c.toNat = 0xc then ['\\', 'f']
  else if 0x20 ≤ c.toNat ∧ c.toNat < 0x7f then [c]
  else escapeCode c.toNat

/-- A code point inside a JSON string. -/
def stringPoint : Point → List Char
  | .char c => stringChar c
  | .surrogate place => escapeUnit (Point.surrogate place).code

/-- A JSON string with its quotes. -/
def stringChars (content : Text) : List Char :=
  '"' :: (content.points.flatMap stringPoint ++ ['"'])

/-- Texts joined by a comma and a blank. -/
def joined : List (List Char) → List Char
  | [] => []
  | [only] => only
  | first :: rest => first ++ ',' :: ' ' :: joined rest

mutual

/-- The text of a tree. -/
def chars : Json → List Char
  | null => "null".toList
  | boolean true => "true".toList
  | boolean false => "false".toList
  | integer value => (integerText value).toList
  | number shown => shown.toList
  | text content => stringChars content
  | array items => '[' :: (joined (itemChars items) ++ [']'])
  | object members => '{' :: (joined (memberChars members) ++ ['}'])

/-- The texts of the items of an array. -/
def itemChars : List Json → List (List Char)
  | [] => []
  | item :: rest => item.chars :: itemChars rest

/-- The texts of the members of an object. -/
def memberChars : List (String × Json) → List (List Char)
  | [] => []
  | (name, value) :: rest => (stringChars name ++ ':' :: ' ' :: value.chars) :: memberChars rest

end

/-- The text of a tree on one line. -/
def render (json : Json) : String := String.ofList json.chars

end Json

end BlobCatalog.Text
