import BlobCatalog.Text
import BlobCatalog.Text.Blank

/-!
# Files of settings

A file of settings holds one `NAME=value` per line. Blanks around names and values are dropped, a
line may start with `export`, a value may stand in single or double quotes and then go on over
several lines, and `#` starts a comment. A line that does not follow these rules is passed over.
`EnvFile.bindings` takes the lines apart and `EnvFile.read` fills in references `${NAME}` and
`${NAME:-default}` from the environment and the lines before; a name bound twice keeps its first
place and its last value.
-/

namespace BlobCatalog.EnvFile

open BlobCatalog.Text

/-! ## Pieces of a line -/

/-- A line break; the text is read with all line breaks as one character. -/
def isBreak (c : Char) : Bool := c == '\n'

/-- A blank within a line. -/
def isInlineBlank (c : Char) : Bool := isSpacing c && !isBreak c

/-- A text in which every line break is one character. -/
def unifyBreaks : List Char → List Char
  | [] => []
  | '\r' :: '\n' :: rest => '\n' :: unifyBreaks rest
  | '\r' :: rest => '\n' :: unifyBreaks rest
  | c :: rest => c :: unifyBreaks rest

/-- A text without the blanks at its front. -/
def skipInline (text : List Char) : List Char := text.dropWhile isInlineBlank

/-- The text after the line that a text is in. -/
def skipLine (text : List Char) : List Char := (text.dropWhile (!isBreak ·)).drop 1

/-- A text without the word `export` and the blanks after it. -/
def skipExport (text : List Char) : List Char :=
  match text with
  | 'e' :: 'x' :: 'p' :: 'o' :: 'r' :: 't' :: c :: rest =>
    if isInlineBlank c then skipInline rest else text
  | _ => text

/-- A character of a name that is not quoted. -/
def isNameChar (c : Char) : Bool := c != '=' && c != '#' && !isSpacing c

/-- What reading goes through, unless it stops at a text. -/
abbrev Reading := Except (List Char)

/-- The name at the front of a text, with the rest; there is none in front of a comment. -/
def takeName (text : List Char) : Reading (Option String × List Char) :=
  match text with
  | '#' :: _ => .ok (none, text)
  | '\'' :: body =>
    let name := body.takeWhile (· != '\'')
    match name, body.dropWhile (· != '\'') with
    | [], _ => .error text
    | _, '\'' :: rest => .ok (some (String.ofList name), rest)
    | _, _ => .error text
  | _ =>
    match text.takeWhile isNameChar with
    | [] => .error text
    | name => .ok (some (String.ofList name), text.dropWhile isNameChar)

/-! ## Values -/

/-- The content up to the first quote that is not escaped, and the rest after it. -/
def untilQuote? (quote : Char) : List Char → Option (List Char × List Char)
  | [] => none
  | '\\' :: c :: rest =>
    if c = quote then
      (untilQuote? quote rest).map fun (content, rest) => ('\\' :: c :: content, rest)
    else (untilQuote? quote (c :: rest)).map fun (content, rest) => ('\\' :: content, rest)
  | c :: rest =>
    if c = quote then some ([], rest)
    else (untilQuote? quote rest).map fun (content, rest) => (c :: content, rest)

/-- The content up to the last quote, and the rest after it. -/
def untilLastQuote? (quote : Char) : List Char → Option (List Char × List Char)
  | [] => none
  | c :: rest =>
    match untilLastQuote? quote rest with
    | some (content, rest) => some (c :: content, rest)
    | none => if c = quote then some ([], rest) else none

/-- A quoted content. An escaped quote ends it only where no other quote does. -/
def takeQuoted (quote : Char) (body : List Char) : Option (List Char × List Char) :=
  match untilQuote? quote body with
  | some found => some found
  | none => untilLastQuote? quote body

/-- The character that an escape stands for inside the given quotes. -/
def escaped? (quote c : Char) : Option Char :=
  if c = '\\' ∨ c = '\'' then some c
  else if quote = '"' then
    match c with
    | '"' => some '"'
    | 'a' => some (Char.ofNat 7)
    | 'b' => some (Char.ofNat 8)
    | 'f' => some (Char.ofNat 12)
    | 'n' => some '\n'
    | 'r' => some '\r'
    | 't' => some '\t'
    | 'v' => some (Char.ofNat 11)
    | _ => none
  else none

/-- A quoted content with its escapes replaced. -/
def unescape (quote : Char) : List Char → List Char
  | [] => []
  | '\\' :: c :: rest =>
    match escaped? quote c with
    | some meant => meant :: unescape quote rest
    | none => '\\' :: unescape quote (c :: rest)
  | c :: rest => c :: unescape quote rest

/-- A value without the comment that follows it after a blank. -/
def dropComment : List Char → List Char
  | [] => []
  | c :: rest =>
    if isSpacing c ∧ (rest.dropWhile isSpacing).head? = some '#' then []
    else c :: dropComment rest

/-- The value at the front of a text, with the rest. -/
def takeValue (text : List Char) : Reading (String × List Char) :=
  match text with
  | [] => .ok ("", [])
  | c :: body =>
    if c = '\'' ∨ c = '"' then
      match takeQuoted c body with
      | some (content, rest) => .ok (String.ofList (unescape c content), rest)
      | none => .error text
    else if isBreak c then .ok ("", text)
    else
      let line := text.takeWhile (!isBreak ·)
      .ok (String.ofList (trimEnd isSpacing (dropComment line)), text.dropWhile (!isBreak ·))

/-! ## Lines -/

/-- A name with the value it is bound to. A name alone is bound to nothing. -/
structure Binding (α : Type) where
  name : String
  value : Option α
deriving DecidableEq, Repr

/-- The rest of a text after the end of a line, which may hold a comment. -/
def endLine (text : List Char) : Reading (List Char) :=
  let afterComment := match skipInline text with
    | '#' :: comment => comment.dropWhile (!isBreak ·)
    | _ => text
  match skipInline afterComment with
  | [] => .ok []
  | c :: rest => if isBreak c then .ok rest else .error afterComment

/-- The binding at the front of a text that is not blank, with the rest. -/
def takeBinding (text : List Char) : Reading (Option (Binding String) × List Char) := do
  let (name, rest) ← takeName (skipExport text)
  let (value, rest) ← match skipInline rest with
    | '=' :: rest => do
      let (value, rest) ← takeValue (skipInline rest)
      pure (some value, rest)
    | rest => pure (none, rest)
  let rest ← endLine rest
  return (name.map fun name => ⟨name, value⟩, rest)

/-- The bindings of a text, in at most `limit` lines. A line that cannot be read is skipped from
where reading stopped. -/
def bindingsWithin : Nat → List Char → List (Binding String)
  | 0, _ => []
  | limit + 1, text =>
    match text.dropWhile isSpacing with
    | [] => []
    | text =>
      match takeBinding text with
      | .ok (some binding, rest) => binding :: bindingsWithin limit rest
      | .ok (none, rest) => bindingsWithin limit rest
      | .error rest => bindingsWithin limit (skipLine rest)

/-- The bindings of a file. -/
def bindings (content : String) : List (Binding String) :=
  let text := unifyBreaks content.toList
  bindingsWithin (text.length + 1) text

/-! ## References -/

/-- Names with their values. -/
abbrev Environment := List (String × Text)

/-- A reference after its opening brace: the name, the default and the rest. -/
def takeReference? (body : List Char) : Option (String × List Char × List Char) :=
  let isPlain := fun c => c != '\x7d' && c != ':'
  let name := String.ofList (body.takeWhile isPlain)
  match body.dropWhile isPlain with
  | '\x7d' :: rest => some (name, [], rest)
  | ':' :: '-' :: rest =>
    let isInside := fun c => c != '\x7d'
    match rest.dropWhile isInside with
    | '\x7d' :: after => some (name, rest.takeWhile isInside, after)
    | _ => none
  | _ => none

/-- A value with its references filled in, in at most `limit` characters. -/
def expandWithin (find? : String → Option Text) : Nat → List Char → List Point
  | 0, _ => []
  | _, [] => []
  | limit + 1, c :: rest =>
    let reference := match c, rest with
      | '$', '\x7b' :: body => takeReference? body
      | _, _ => none
    match reference with
    | some (name, default, after) =>
      let filled := match find? name with
        | some value => value.points
        | none => default.map .char
      filled ++ expandWithin find? limit after
    | none => .char c :: expandWithin find? limit rest

/-- A value with its references filled in. -/
def expand (find? : String → Option Text) (value : String) : Text :=
  ⟨expandWithin find? (value.length + 1) value.toList⟩

/-- A name bound anew: at its place if it is bound already, at the end if not. -/
def bind (bound : List (Binding Text)) (binding : Binding Text) : List (Binding Text) :=
  if bound.any (·.name == binding.name) then
    bound.map fun other => if other.name = binding.name then binding else other
  else bound ++ [binding]

/-- What a name stands for in a reference: the last value of the file so far, empty if it has none,
or that of the environment. -/
def meaning? (environment : Environment) (bound : List (Binding Text)) (name : String) :
    Option Text :=
  match bound.find? (·.name == name) with
  | some binding => some (binding.value.getD "")
  | none => environment.lookup name

/-- The bindings of a file with all references filled in. -/
def resolve (environment : Environment) (bindings : List (Binding String)) :
    List (Binding Text) :=
  bindings.foldl (fun bound binding =>
    bind bound ⟨binding.name, binding.value.map (expand (meaning? environment bound))⟩) []

/-- The names of a file with their values. -/
def read (environment : Environment) (content : String) : List (Binding Text) :=
  resolve environment (bindings content)

end BlobCatalog.EnvFile
