import BlobCatalog.Text

/-!
# Log entries

What the store and the command line write to the log: a level, where the entry comes from and a
text. Levels are ordered, and a log shows the entries of its own level and above.
-/

namespace BlobCatalog

/-- How grave a log entry is. -/
inductive LogLevel where
  | debug
  | info
  | warning
  | error
  | critical
deriving DecidableEq, Repr

namespace LogLevel

/-- The levels in order. -/
def all : List LogLevel := [debug, info, warning, error, critical]

/-- The name of a level. -/
def name : LogLevel → String
  | debug => "DEBUG"
  | info => "INFO"
  | warning => "WARNING"
  | error => "ERROR"
  | critical => "CRITICAL"

/-- The rank of a level. -/
def rank : LogLevel → Nat
  | debug => 0
  | info => 1
  | warning => 2
  | error => 3
  | critical => 4

/-- A log of this level shows entries of another level. -/
def admits (level other : LogLevel) : Bool := level.rank ≤ other.rank

/-- The level with a name. -/
def ofName? (name : String) : Option LogLevel := all.find? fun level => level.name == name

end LogLevel

/-- Where a log entry comes from. -/
inductive LogSource where
  | store
  | command
deriving DecidableEq, Repr

/-- The name of a source in the lines of a log. -/
def LogSource.name : LogSource → String
  | store => "metadb_local.adapters.sqlite_store"
  | command => "metadb_local.main"

/-- An entry of the log. -/
structure LogEntry where
  level : LogLevel
  source : LogSource
  text : Text
deriving DecidableEq, Repr

/-- The line of an entry that was written at a time. -/
def LogEntry.line (entry : LogEntry) (time : String) : Text :=
  time ++ " " ++ entry.level.name ++ " " ++ entry.source.name ++ ": " ++ entry.text

end BlobCatalog
