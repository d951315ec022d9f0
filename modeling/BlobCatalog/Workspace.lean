import BlobCatalog.Path
import BlobCatalog.Settings
import BlobCatalog.Table

/-!
# Workspaces

A `Workspace` is what a command line finds where it runs: the working directory, the directories
that exist, the tables by their paths, the file of settings in the working directory, and the paths
at which the system makes no directory or opens no table, because their names are too long or it is
not permitted. Making a directory makes those that lead to it and is refused where a file stands in
the way (`Workspace.makeFolder`); opening a table makes an empty one where there is none
(`Workspace.openTable`).
-/

namespace BlobCatalog

/-- The directories and files around a command line. -/
structure Workspace where
  directory : Path
  folders : List Path
  tables : List (Path × Table)
  settingsFile : Option String
  barsFolder : Path → Bool
  barsTable : Path → Bool

namespace Workspace

/-- The workspace of a directory that holds at most a file of settings, where only the usual limits
on the lengths of names and paths stand. -/
def fresh (directory : Path) (settingsFile : Option String) : Workspace where
  directory := directory
  folders := directory.ancestors
  tables := []
  settingsFile := settingsFile
  barsFolder path := path.segments.any (255 < ·.size) || 4095 < path.text.size
  barsTable path := path.segments.any (255 < ·.size) || 504 < path.text.size

/-- The place of the file of settings. -/
def settingsPath (workspace : Workspace) : Path := workspace.directory.child ".env"

/-- A directory stands at a path. The root always does. -/
def isFolder (workspace : Workspace) (path : Path) : Bool :=
  path.segments.isEmpty || workspace.folders.contains path

/-- A file stands at a path. -/
def isFile (workspace : Workspace) (path : Path) : Bool :=
  (workspace.tables.lookup path).isSome ||
    (workspace.settingsFile.isSome && path == workspace.settingsPath)

/-- Make those directories that are missing, one after another. What was made stays if one of them
is refused. -/
def makeFolders (workspace : Workspace) : List Path → Except Fault Unit × Workspace
  | [] => (.ok (), workspace)
  | folder :: rest =>
    if workspace.isFolder folder then workspace.makeFolders rest
    else if workspace.isFile folder then
      (.error (if rest.isEmpty then .fileInTheWay else .notDirectory), workspace)
    else if workspace.barsFolder folder then (.error .barred, workspace)
    else { workspace with folders := workspace.folders ++ [folder] }.makeFolders rest

/-- Make a directory where there is none, and first those that lead to it. -/
def makeFolder (workspace : Workspace) (path : Path) : Except Fault Unit × Workspace :=
  if workspace.isFolder path then (.ok (), workspace) else workspace.makeFolders path.ancestors

/-- The workspace with a table at a path. -/
def putTable (workspace : Workspace) (path : Path) (table : Table) : Workspace :=
  let others := workspace.tables.filter fun entry => entry.1 != path
  { workspace with tables := others ++ [(path, table)] }

/-- The table at a path; an empty one is made where nothing stands. -/
def openTable (workspace : Workspace) (path : Path) : Except Fault (Table × Workspace) :=
  if workspace.isFolder path || workspace.barsTable path then .error .unopenable
  else
    match workspace.tables.lookup path with
    | some table => .ok (table, workspace)
    | none => .ok (.empty, workspace.putTable path .empty)

/-- Make the directories of the settings. -/
def makePlace (workspace : Workspace) (settings : Settings) : Except Fault Unit × Workspace :=
  match settings.checkPlace with
  | .error fault => (.error fault, workspace)
  | .ok () =>
    match workspace.makeFolder (settings.dataDir workspace.directory) with
    | (.error fault, workspace) => (.error fault, workspace)
    | (.ok (), workspace) => workspace.makeFolder (settings.objectPath workspace.directory)

/-- Make the directories of the settings and open their table. What was made stays even if the
table cannot be opened. -/
def prepare (workspace : Workspace) (settings : Settings) : Except Fault Table × Workspace :=
  match workspace.makePlace settings with
  | (.error fault, workspace) => (.error fault, workspace)
  | (.ok (), workspace) =>
    match workspace.openTable (settings.tablePath workspace.directory) with
    | .error fault => (.error fault, workspace)
    | .ok (table, workspace) => (.ok table, workspace)

/-- The paths of all directories and tables. -/
def entries (workspace : Workspace) : List Path :=
  workspace.folders ++ workspace.tables.map (·.1)

end Workspace

end BlobCatalog
