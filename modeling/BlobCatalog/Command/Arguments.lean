import BlobCatalog.Text.Blank
import BlobCatalog.Text.Digit
import BlobCatalog.Text.Quoted

/-!
# Arguments of a program

A `Grammar` names the switches of a program and says what its other words are for. Words are first
told apart (`readWords`): a switch may be shortened as long as it stays unique, may carry its value
after `=`, and a word that looks like a negative number or holds a blank is no switch; after `--`
no word is. Then the words are gone through from left to right (`scan`), which gives the `Event`s in
their order, the words that nobody takes, and the complaint that ended the scan if one did.
-/

namespace BlobCatalog.Arguments

open BlobCatalog.Text

/-- A switch with all its names. It takes a value, or else it asks for help. -/
structure Switch where
  names : List String
  takesValue : Bool
deriving DecidableEq, Repr

/-- What the words that are no switches are for. -/
inductive Operand where
  | none
  | one
  | rest
deriving DecidableEq, Repr

/-- The switches of a program and the use of its other words. -/
structure Grammar where
  switches : List Switch
  operand : Operand
deriving DecidableEq, Repr

/-- The names of a switch in messages. -/
def Switch.shown (switch : Switch) : String := "/".intercalate switch.names

namespace Grammar

/-- The names of all switches with their switches, in order. -/
def names (grammar : Grammar) : List (String × Switch) :=
  grammar.switches.flatMap fun switch => switch.names.map fun name => (name, switch)

/-- The switch of a name. -/
def switch? (grammar : Grammar) (name : String) : Option Switch := grammar.names.lookup name

end Grammar

/-! ## Complaints -/

/-- Why the words of a command line are refused. -/
inductive Complaint where
  | ambiguous (word : Text) (matches_ : List String)
  | ignoredValue (switch : Switch) (value : Text)
  | missingValue (switch : Switch)
  | badSize (text : Text)
  | negativeSize (size : Int)
  | unknownCommand (word : Text) (commands : List String)
  | missing (names : List String)
  | unrecognized (words : List Text)
deriving DecidableEq, Repr

/-- The words of a complaint. -/
def Complaint.message : Complaint → Text
  | ambiguous word names =>
    "ambiguous option: " ++ word ++ " could match " ++ ", ".intercalate names
  | ignoredValue switch value =>
    "argument " ++ switch.shown ++ ": ignored explicit argument " ++ quoted value
  | missingValue switch => "argument " ++ switch.shown ++ ": expected one argument"
  | badSize text => "argument --size: invalid _size value: " ++ quoted text
  | negativeSize size => "argument --size: size must not be negative: " ++ integerText size
  | unknownCommand word commands =>
    "argument command: invalid choice: " ++ quoted word ++ " (choose from " ++
      ", ".intercalate (commands.map fun (name : String) => quoted name) ++ ")"
  | missing names => "the following arguments are required: " ++ ", ".intercalate names
  | unrecognized words => "unrecognized arguments: " ++ Text.intercalate " " words

/-! ## Telling words apart -/

/-- What a word is: the mark that ends the switches, a plain word, a switch with the value it
carries, or a word that looks like a switch and is none. -/
inductive Reading where
  | marker
  | plain
  | switch (known : Switch) (name : String) (value : Option Text)
  | unknownSwitch
deriving DecidableEq, Repr

/-- A text split at its first `=`. -/
def splitValue (word : Text) : Option (Text × Text) :=
  match word.points.dropWhile (· != .char '=') with
  | _ :: value => some (⟨word.points.takeWhile (· != .char '=')⟩, ⟨value⟩)
  | [] => none

/-- A word that looks like a negative number: digits, or a point with digits after it. -/
def looksNegative (word : Text) : Bool :=
  match word.points with
  | .char '-' :: body =>
    let body := match body.reverse with
      | .char '\n' :: reversed => reversed.reverse
      | _ => body
    let isDigit := fun (point : Point) => point.isCharIn fun c => (decimalValue? c).isSome
    match body.dropWhile isDigit with
    | [] => !body.isEmpty
    | .char '.' :: fraction => !fraction.isEmpty && fraction.all isDigit
    | _ => false
  | _ => false

/-- A text begins like another one. -/
def startsWith (text start : Text) : Bool := start.points.isPrefixOf text.points

/-- The switches that a shortened name may mean, each with its full name and the value it carries:
a long name by its beginning, and a short one also with the value right after its letter. -/
def candidates (grammar : Grammar) (word : Text) : List (Switch × String × Option Text) :=
  match word.points with
  | .char '-' :: .char '-' :: _ =>
    let (short, value) := match splitValue word with
      | some (short, value) => (short, some value)
      | none => (word, none)
    grammar.names.filterMap fun (name, switch) =>
      if startsWith name short then some (switch, name, value) else none
  | .char '-' :: letter :: value =>
    grammar.names.filterMap fun (name, switch) =>
      if (⟨[.char '-', letter]⟩ : Text) = name then some (switch, name, some ⟨value⟩)
      else if startsWith name word then some (switch, name, none)
      else none
  | _ => []

/-- What a word before the mark is. -/
def readWord (grammar : Grammar) (word : Text) : Except Complaint Reading :=
  let exact := do
    let name ← word.string?
    return Reading.switch (← grammar.switch? name) name none
  let carrying := do
    let (name, value) ← splitValue word
    let name ← name.string?
    return Reading.switch (← grammar.switch? name) name (some value)
  match word.points with
  | .char '-' :: _ :: _ =>
    match exact.or carrying, candidates grammar word with
    | some reading, _ => .ok reading
    | none, [(switch, name, value)] => .ok (.switch switch name value)
    | none, [] =>
      if looksNegative word || word.points.contains (.char ' ') then .ok .plain
      else .ok .unknownSwitch
    | none, several => .error (.ambiguous word (several.map fun candidate => candidate.2.1))
  | _ => .ok .plain

/-- A word with what it is. -/
abbrev Token := Text × Reading

/-- All words with what they are. -/
def readWords (grammar : Grammar) : List Text → Except Complaint (List Token)
  | [] => .ok []
  | word :: rest =>
    if word = "--" then .ok ((word, .marker) :: rest.map fun word => (word, .plain))
    else do
      let reading ← readWord grammar word
      return (word, reading) :: (← readWords grammar rest)

/-! ## Going through the words -/

/-- What a word does: ask for help, give a switch its value, or serve as operands. A value that is
only the mark `--` is no value. -/
inductive Event where
  | help
  | value (name : String) (value : Option Text)
  | operands (words : List Text)
deriving DecidableEq, Repr

/-- The events of a command line, the words that nobody takes, and the complaint at its end. -/
structure Scan where
  events : List Event
  extras : List Text
  complaint : Option Complaint

namespace Scan

/-- Nothing is left. -/
def done : Scan := ⟨[], [], none⟩

/-- A scan that stops at a complaint. -/
def stop (complaint : Complaint) : Scan := ⟨[], [], some complaint⟩

/-- A scan with one more event at its front. -/
def event (event : Event) (scan : Scan) : Scan := { scan with events := event :: scan.events }

/-- A scan with words at its front that nobody takes. -/
def extra (words : List Text) (scan : Scan) : Scan :=
  { scan with extras := words ++ scan.extras }

end Scan

/-- The value that a switch carries, unless it is only the mark. -/
def carried (value : Text) : Option Text := if value = "--" then none else some value

/-- A switch that asks for help with something right after it: more letters of short switches that
ask for help, or a value, which is refused. -/
def helpWith (grammar : Grammar) (switch : Switch) : List Point → Except Complaint Event
  | [] => .ok .help
  | letter :: rest =>
    match (⟨[.char '-', letter]⟩ : Text).string?.bind grammar.switch? with
    | some next => helpWith grammar next rest
    | none => .error (.ignoredValue switch ⟨letter :: rest⟩)

/-- A switch with the value it carries. -/
def carrying (grammar : Grammar) (switch : Switch) (name : String) (value : Text) :
    Except Complaint Event :=
  if switch.takesValue then .ok (.value name (carried value))
  else if startsWith name "--" || value.isEmpty then .error (.ignoredValue switch value)
  else helpWith grammar switch value.points

/-- The mark that ends the switches. -/
def isMarker (token : Token) : Bool := token.2 == .marker

/-- The number of words at the front that are taken as operands: a plain word with the mark before
or after it, or all words from a plain word on. -/
def operandCount (operand : Operand) (tokens : List Token) : Nat :=
  let before := (tokens.takeWhile isMarker).length
  match operand, tokens.drop before with
  | .one, (_, .plain) :: after => before + 1 + (after.takeWhile isMarker).length
  | .rest, (_, .plain) :: _ => tokens.length
  | _, _ => 0

/-- The words taken as operands. A single operand stands without the mark. -/
def operandWords (operand : Operand) (words : List Text) : List Text :=
  match operand with
  | .one => words.erase "--"
  | _ => words

/-- A token that is a switch. -/
def isSwitch (token : Token) : Bool :=
  match token.2 with
  | .switch _ _ _ | .unknownSwitch => true
  | .marker | .plain => false

/-- Go through the words, in at most `limit` steps. -/
def scanWithin (grammar : Grammar) : Nat → Operand → List Token → Scan
  | 0, _, _ => .done
  | _, _, [] => .done
  | limit + 1, operand, (word, .unknownSwitch) :: rest =>
    (scanWithin grammar limit operand rest).extra [word]
  | limit + 1, operand, (_, .switch switch name value) :: rest =>
    match value with
    | some value =>
      match carrying grammar switch name value with
      | .ok event => (scanWithin grammar limit operand rest).event event
      | .error complaint => .stop complaint
    | none =>
      if !switch.takesValue then (scanWithin grammar limit operand rest).event .help
      else
        match rest with
        | (value, .plain) :: rest =>
          (scanWithin grammar limit operand rest).event (.value name (some value))
        | _ => .stop (.missingValue switch)
  | limit + 1, operand, tokens =>
    match operandCount operand tokens with
    | 0 =>
      let unclaimed := (tokens.takeWhile fun token => !isSwitch token).map (·.1)
      (scanWithin grammar limit operand (tokens.dropWhile fun token => !isSwitch token)).extra
        unclaimed
    | count =>
      let words := operandWords operand ((tokens.take count).map (·.1))
      (scanWithin grammar limit .none (tokens.drop count)).event (.operands words)

/-- Go through the words of a command line. -/
def scan (grammar : Grammar) (words : List Text) : Scan :=
  match readWords grammar words with
  | .ok tokens => scanWithin grammar (tokens.length + 1) grammar.operand tokens
  | .error complaint => .stop complaint

end BlobCatalog.Arguments
