import BlobCatalog.Catalog
import BlobCatalog.Settings.Refusal
import BlobCatalog.Workspace

/-!
# Replies to command lines

A command line is read, the settings are taken from the environment and the file of settings, the
workspace is prepared, and the request is served by the catalog of the settings. The `Reply` holds
what is printed, what is logged and the exit code: 0 for a request that succeeds and for help, 1 for
a fault of the domain, which is reported in one line, and 2 for refused words or settings. Any other
fault is not reported but escapes.
-/

namespace BlobCatalog

open EnvFile (Binding Environment)

/-- What a command line answers: its exit code or the fault that escapes, the printed output, the
log, the fault noted under the log entry of the command, and what is printed as an error after the
log. -/
structure Reply where
  outcome : Except Fault Nat
  output : String
  log : List LogEntry
  noted : Option Fault
  errors : Text

namespace Reply

/-- A reply that prints its output and succeeds. -/
def success (output : String) (log : List LogEntry) : Reply := ⟨.ok 0, output, log, none, ""⟩

/-- A reply that refuses the words or the settings. -/
def refusal (errors : Text) : Reply := ⟨.ok 2, "", [], none, errors⟩

/-- A fault that escapes. -/
def escape (fault : Fault) (log : List LogEntry) : Reply := ⟨.error fault, "", log, none, ""⟩

/-- The reply of a command line that is not served. -/
def ofHalt : Halt → Reply
  | .help program => success program.help []
  | .complaint program complaint =>
    refusal (program.usage ++ program.name ++ ": error: " ++ complaint.message ++ "\n")

/-- The log entry of a request that fails. -/
def failureEntry (request : Request) : LogEntry :=
  ⟨.debug, .command, "Command " ++ request.name ++ " failed"⟩

/-- The reply of a served request, with the whole log. -/
def ofService (request : Request) (service : Service) : Reply :=
  match service.outcome with
  | .ok line => success (line ++ "\n") service.log
  | .error fault =>
    match fault.isDomain, fault.message? with
    | true, some message =>
      { outcome := .ok 1, output := "", log := service.log ++ [failureEntry request]
        noted := some fault, errors := "error: " ++ message ++ "\n" }
    | _, _ => escape fault service.log

/-- A reply with the entries that a log of a level shows. -/
def filtered (reply : Reply) (level : LogLevel) : Reply :=
  { reply with log := reply.log.filter fun entry => level.admits entry.level }

end Reply

/-- The catalog of the settings. -/
def Settings.catalog (settings : Settings) (directory : Path) : Catalog :=
  ⟨⟨.text settings.entityKind⟩, ⟨settings.objectPath directory⟩⟩

namespace Workspace

/-- Serve a request under the given settings. -/
def serve (workspace : Workspace) (settings : Settings) (request : Request) (supply : Supply) :
    Reply × Workspace × Supply :=
  match workspace.prepare settings with
  | (.error fault, workspace) => (Reply.escape fault [], workspace, supply)
  | (.ok table, workspace) =>
    let service := (settings.catalog workspace.directory).serve request table supply
    let reply := (Reply.ofService request service).filtered settings.logLevel
    let path := settings.tablePath workspace.directory
    (reply, workspace.putTable path service.table, service.supply)

/-- The names that the file of settings binds. -/
def fileBindings (workspace : Workspace) (environment : Environment) : List (Binding Text) :=
  match workspace.settingsFile with
  | some content => EnvFile.read environment content
  | none => []

/-- Answer a command line. -/
def answer (workspace : Workspace) (environment : Environment) (words : List Text)
    (supply : Supply) : Reply × Workspace × Supply :=
  match Request.ofWords words with
  | .error halt => (Reply.ofHalt halt, workspace, supply)
  | .ok request =>
    let file := workspace.fileBindings environment
    match Settings.ofSources [] environment file with
    | .error _ =>
      let report := "error: invalid settings: " ++ Settings.refusal environment file ++ "\n"
      (Reply.refusal report, workspace, supply)
    | .ok settings => workspace.serve settings request supply

end Workspace

end BlobCatalog
