import BlobCatalog.Calendar.Epoch
import BlobCatalog.Command.Reply
import BlobCatalog.Table.Saved

/-!
# The command line

Reads what a command line depends on, has it answered and carries the answer out: directories are
made, the table is saved and the reply is printed. The time is read once, and a request needs at
most two identifiers.
-/

namespace BlobCatalog.Main

open Calendar (DateTime)
open EnvFile (Environment)

/-- The content of a file, if there is one. -/
def readText? (path : String) : IO (Option String) := do
  try
    return some (← IO.FS.readFile path)
  catch
    | .noFileOrDirectory _ _ _ => return none
    | failure => throw failure

/-- The environment with all its names. -/
def readEnvironment : IO Environment := do
  let content := (← readText? "/proc/self/environ").getD ""
  return (Text.pieces (Char.ofNat 0) content.toList).filterMap fun entry => do
    let (name, value) ← Arguments.splitValue (.ofChars entry)
    return (← name.string?, value)

/-- The number at the front of a text in hundredths. -/
def hundredths (text : String) : Nat :=
  let number := text.toList.takeWhile fun c => c != ' ' && c != '\n'
  let digits := fun (part : List Char) => Text.ofDigits 10 (part.filterMap Text.asciiDigit?)
  100 * digits (number.takeWhile (· != '.')) + digits ((number.dropWhile (· != '.')).take 3)

/-- The time now: that of the start of the machine and what has passed since. -/
def readTime : IO (Option DateTime) := do
  let status := (← readText? "/proc/stat").getD ""
  let passed := hundredths ((← readText? "/proc/uptime").getD "")
  let line := (Text.pieces '\n' status.toList).find? fun line => "btime ".toList.isPrefixOf line
  return line.bind fun line =>
    let started := hundredths (String.ofList (line.drop "btime ".length))
    DateTime.ofEpoch? ((started + passed) * 10000)

/-- A random identifier. -/
def drawId : IO (Option Uuid) := do
  return Uuid.ofRandomBytes? (← IO.getRandomBytes 16).toList

/-- The workspace of a directory, with the table that the settings name if they name one. -/
def readWorkspace (directory : Path) (environment : Environment) : IO Workspace := do
  let content ← readText? (directory.child ".env").text.displayed
  let workspace := Workspace.fresh directory content
  match Settings.ofSources [] environment (workspace.fileBindings environment) with
  | .error _ => return workspace
  | .ok settings =>
    let path := settings.tablePath directory
    match ← readText? path.text.displayed with
    | none => return workspace
    | some content =>
      match Table.ofSaved? content with
      | some table => return workspace.putTable path table
      | none => throw (IO.userError (path.text.displayed ++ " holds no table"))

/-- Make the new directories of a workspace and save the tables that changed. -/
def writeWorkspace (before after : Workspace) : IO Unit := do
  for folder in after.folders do
    if !before.isFolder folder then IO.FS.createDirAll folder.text.displayed
  for (path, table) in after.tables do
    if before.tables.lookup path != some table then IO.FS.writeFile path.text.displayed table.saved

/-- Print a reply and give its exit code; a fault that escapes is the code 1. -/
def finish (reply : Reply) (time : String) : IO UInt32 := do
  IO.print reply.output
  for entry in reply.log do
    IO.eprintln (entry.line time).displayed
  IO.eprint reply.errors.displayed
  match reply.outcome with
  | .ok code => return UInt32.ofNat code
  | .error fault =>
    IO.eprintln ((fault.message?.map Text.displayed).getD "The request cannot be carried out.")
    return 1

end BlobCatalog.Main

open BlobCatalog BlobCatalog.Main in
/-- Answer the command line. -/
def main (arguments : List String) : IO UInt32 := do
  let directory := Path.ofText (← IO.currentDir).toString
  let environment ← readEnvironment
  let before ← readWorkspace directory environment
  let time ← readTime
  let ids := [← drawId, ← drawId].reduceOption.map Value.uuid
  let supply := Supply.start (fun _ => time) (Supply.listed ids)
  let (reply, after, _) := before.answer environment (arguments.map .ofString) supply
  writeWorkspace before after
  finish reply ((time.map (·.spacedText)).getD "")
