import BlobCatalog.Settings

/-!
# Report on refused settings

The words about a log level that is none. The refused value is shown in quotes as it was compared,
in capitals; a value that is too long to show is cut in its middle.
-/

namespace BlobCatalog.Settings

open BlobCatalog.Text
open EnvFile (Binding Environment)

/-- Characters from the front of a text that fit into a number of bytes. -/
def fitting : Nat → List Char → List Char
  | _, [] => []
  | room, c :: rest => if c.utf8Size ≤ room then c :: fitting (room - c.utf8Size) rest else []

/-- A text that is shown whole up to 50 bytes. Of a longer one the first 25 bytes and the last 24
are shown, as far as they hold whole characters. -/
def abridged (text : String) : String :=
  if text.utf8ByteSize ≤ 50 then text
  else
    String.ofList (fitting 25 text.toList) ++ "..." ++
      String.ofList (fitting 24 text.toList.reverse).reverse

/-- The names of all levels, each in quotes, with `or` before the last. -/
def levelChoices : String :=
  let names := LogLevel.all.map fun level => quoted level.name
  ", ".intercalate names.dropLast ++ " or " ++ names.getLastD ""

/-- The page that explains a refusal of a kind. -/
def explanation (kind : String) : String :=
  "://".intercalate ["https", "errors.pydantic.dev/2.14/v/" ++ kind]

/-- What a level should be, with the kind of the refusal. A name with surrogates is no string. -/
def expectation (name : Text) : String × String :=
  match name.string? with
  | some _ => ("Input should be " ++ levelChoices, "literal_error")
  | none =>
    ("Input should be a valid string, unable to parse raw data as a unicode string",
      "string_unicode")

/-- The report on a level of the given name. -/
def refusedLevel (name : Text) : String :=
  let (expected, kind) := expectation name
  "1 validation error for Settings\n" ++ levelName ++ "\n  " ++ expected ++ " [type=" ++ kind ++
    ", input_value=" ++ abridged (quoted (uppercase name)) ++
    ", input_type=str]\n    For further information visit " ++ explanation kind

/-- The report on settings from the environment and a file. -/
def refusal (environment : Environment) (file : List (Binding Text)) : String :=
  match sourced? [] environment file levelName with
  | some (.text name) => refusedLevel name
  | _ => ""

end BlobCatalog.Settings
