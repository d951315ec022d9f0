import BlobCatalog.Command.Arguments
import BlobCatalog.Status

/-!
# Requests

What a command line asks for. A `Request` is to create a record or to do something with the record
of a key. The first word names the command and the words after it belong to that command, which has
switches of its own. `Request.ofWords` reads a command line; it halts where help is asked for and
where a word is refused, whichever comes first.
-/

namespace BlobCatalog

open Arguments (Complaint Event Grammar Operand Scan Switch)

/-- A move of a record in its lifecycle. -/
inductive Move where
  | ready
  | markForDeletion
  | fail
deriving DecidableEq, Repr

namespace Move

/-- The status that a move leads to. -/
def target : Move → Status
  | ready => .ready
  | markForDeletion => .pendingDeletion
  | fail => .error

/-- The name of a move on the command line. -/
def name : Move → String
  | ready => "ready"
  | markForDeletion => "mark-for-deletion"
  | fail => "fail"

end Move

/-- What is done with a stored record. -/
inductive Action where
  | inspect
  | move (chosen : Move)
  | purge
deriving DecidableEq, Repr

namespace Action

/-- The actions in the order of the help. -/
def all : List Action := [inspect, move .ready, move .markForDeletion, move .fail, purge]

/-- The name of an action on the command line. -/
def name : Action → String
  | inspect => "show"
  | move chosen => chosen.name
  | purge => "purge"

/-- The action of a name. -/
def ofName? (name : String) : Option Action := all.find? fun action => action.name == name

end Action

/-- What a command line asks for. A switch of `create` that carries only the mark `--` has no
value. -/
inductive Request where
  | create (size : Option Nat) (storeKey recordKey : Option Text)
  | manage (action : Action) (key : Text)
deriving DecidableEq, Repr

namespace Request

/-- The name of the command that creates a record. -/
def createName : String := "create"

/-- The names of all commands. -/
def commandNames : List String := createName :: Action.all.map Action.name

/-- The name of the command of a request. -/
def name : Request → String
  | create _ _ _ => createName
  | manage action _ => action.name

end Request

/-! ## Programs -/

/-- A program: the command line as a whole or one of its commands, with the words it takes and the
texts that explain it. -/
structure Program where
  name : String
  grammar : Grammar
  synopsis : String
  explanation : List String
deriving DecidableEq, Repr

namespace Program

/-- The switch that asks for help. -/
def helpSwitch : Switch := ⟨["-h", "--help"], false⟩

/-- The names of all commands in braces. -/
def choices : String := "\x7b" ++ ",".intercalate Request.commandNames ++ "\x7d"

/-- The command line as a whole. -/
def main : Program where
  name := "metadb-local"
  grammar := ⟨[helpSwitch], .rest⟩
  synopsis := "[-h] " ++ choices ++ " ..."
  explanation :=
    ["Inspect and manage blob ref records.",
      "",
      "positional arguments:",
      "  " ++ choices,
      "    create              Create a new blob ref in the initializing state.",
      "",
      "options:",
      "  -h, --help            show this help message and exit"]

/-- The command that creates a record. -/
def create : Program where
  name := main.name ++ " " ++ Request.createName
  grammar := ⟨[helpSwitch, ⟨["--size"], true⟩, ⟨["--store"], true⟩, ⟨["--record"], true⟩], .none⟩
  synopsis := "[-h] --size SIZE --store STORE --record RECORD"
  explanation :=
    ["options:",
      "  -h, --help       show this help message and exit",
      "  --size SIZE",
      "  --store STORE",
      "  --record RECORD"]

/-- The command of an action. -/
def manage (action : Action) : Program where
  name := main.name ++ " " ++ action.name
  grammar := ⟨[helpSwitch], .one⟩
  synopsis := "[-h] key"
  explanation :=
    ["positional arguments:",
      "  key",
      "",
      "options:",
      "  -h, --help  show this help message and exit"]

/-- The line that sums up a program. -/
def usage (program : Program) : String :=
  "usage: " ++ program.name ++ " " ++ program.synopsis ++ "\n"

/-- The help of a program. -/
def help (program : Program) : String :=
  program.usage ++ "\n" ++ "\n".intercalate program.explanation ++ "\n"

end Program

/-- Why reading a command line ends without a request: a program is asked for its help, or it
complains. -/
inductive Halt where
  | help (program : Program)
  | complaint (program : Program) (complaint : Complaint)
deriving DecidableEq, Repr

/-! ## Reading a command line -/

namespace Request

/-- The size that the value of a switch stands for. -/
def readSize : Option Text → Except Complaint (Option Nat)
  | none => .ok none
  | some text =>
    match text.chars?.bind Text.readDecimal? with
    | none => .error (.badSize text)
    | some number =>
      if number < 0 then .error (.negativeSize number) else .ok (some number.toNat)

/-- The switches of `create` that are given so far. The last value of a switch counts. -/
structure Given where
  size : Option (Option Nat)
  storeKey : Option (Option Text)
  recordKey : Option (Option Text)

namespace Given

/-- No switch is given yet. -/
def nothing : Given := ⟨none, none, none⟩

/-- The switches after one more event. -/
def take (given : Given) : Event → Except Halt Given
  | .help => .error (.help Program.create)
  | .value name value =>
    if name = "--size" then
      match readSize value with
      | .ok size => .ok { given with size := some size }
      | .error complaint => .error (.complaint Program.create complaint)
    else if name = "--store" then .ok { given with storeKey := some value }
    else .ok { given with recordKey := some value }
  | .operands _ => .ok given

/-- The names of the switches that are not given. -/
def missing (given : Given) : List String :=
  (if given.size.isNone then ["--size"] else []) ++
    (if given.storeKey.isNone then ["--store"] else []) ++
    (if given.recordKey.isNone then ["--record"] else [])

/-- The request, if all switches are given. -/
def request? (given : Given) : Option Request := do
  return .create (← given.size) (← given.storeKey) (← given.recordKey)

end Given

/-- The key among the words of an action after one more event. -/
def takeKey (action : Action) (key : Option Text) : Event → Except Halt (Option Text)
  | .help => .error (.help (Program.manage action))
  | .operands [word] => .ok (some word)
  | _ => .ok key

/-- The end of a scan: its complaint, or a request unless words are missing. -/
def close (program : Program) (scan : Scan) (missing : List String) (request : Option Request) :
    Except Halt (Request × List Text) :=
  match scan.complaint, request with
  | some complaint, _ => .error (.complaint program complaint)
  | none, some request => .ok (request, scan.extras)
  | none, none => .error (.complaint program (.missing missing))

/-- The request of `create` with the words that nobody takes. -/
def ofCreateWords (words : List Text) : Except Halt (Request × List Text) := do
  let scan := Arguments.scan Program.create.grammar words
  let given ← scan.events.foldlM Given.take Given.nothing
  close Program.create scan given.missing given.request?

/-- The request of an action with the words that nobody takes. -/
def ofActionWords (action : Action) (words : List Text) : Except Halt (Request × List Text) := do
  let scan := Arguments.scan (Program.manage action).grammar words
  let key ← scan.events.foldlM (takeKey action) none
  close (Program.manage action) scan ["key"] (key.map (manage action))

/-- The request of a command with the words that nobody takes. -/
def ofCommand (command : Text) (words : List Text) : Except Halt (Request × List Text) :=
  if command = createName then ofCreateWords words
  else
    match command.string?.bind Action.ofName? with
    | some action => ofActionWords action words
    | none => .error (.complaint Program.main (.unknownCommand command commandNames))

/-- The request so far after one more event of the whole command line. -/
def takeCommand (found : Option (Request × List Text)) :
    Event → Except Halt (Option (Request × List Text))
  | .help => .error (.help Program.main)
  | .operands (command :: words) => (ofCommand command words).map some
  | _ => .ok found

/-- The request of a command line. -/
def ofWords (words : List Text) : Except Halt Request := do
  let scan := Arguments.scan Program.main.grammar words
  let found ← scan.events.foldlM takeCommand none
  let (request, outer) ← close Program.main scan ["command"] (found.map (·.1))
  match outer ++ (found.map (·.2)).getD [] with
  | [] => return request
  | extras => throw (.complaint Program.main (.unrecognized extras))

end Request

end BlobCatalog
