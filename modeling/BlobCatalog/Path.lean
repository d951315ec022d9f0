import BlobCatalog.Text
import BlobCatalog.Text.Pieces

/-!
# Paths

Paths as text and as segments. A `Path` is relative or starts at the root, which is written with one
slash or, if exactly two were given, with two. Segments are neither empty nor a single point;
`Path.join` continues a path by another one, which replaces it when it starts at the root, and
`Path.resolve` makes a path absolute and takes back a segment at each `..`.
-/

namespace BlobCatalog

/-- Where a path starts. -/
inductive PathStart where
  | here
  | root
  | doubleRoot
deriving DecidableEq, Repr

/-- A path: where it starts and the segments that follow. -/
structure Path where
  start : PathStart
  segments : List Text
deriving DecidableEq, Repr

namespace Path

/-- A piece that counts as a segment. -/
def isSegment (piece : List Point) : Bool := piece != [] && piece != [.char '.']

/-- Where the path of a text starts. -/
def startOf : List Point → PathStart
  | .char '/' :: .char '/' :: .char '/' :: _ => .root
  | .char '/' :: .char '/' :: _ => .doubleRoot
  | .char '/' :: _ => .root
  | _ => .here

/-- The path that a text names. -/
def ofText (text : Text) : Path :=
  ⟨startOf text.points, ((Text.pieces (.char '/') text.points).filter isSegment).map Text.mk⟩

/-- The text of a path. -/
def text (path : Path) : Text :=
  let body := Text.intercalate "/" path.segments
  match path.start with
  | .here => if path.segments.isEmpty then "." else body
  | .root => "/" ++ body
  | .doubleRoot => "//" ++ body

/-- A path continued by another one. -/
def join (path other : Path) : Path :=
  match other.start with
  | .here => ⟨path.start, path.segments ++ other.segments⟩
  | _ => other

/-- A path continued by a segment. -/
def child (path : Path) (segment : Text) : Path :=
  ⟨path.start, path.segments ++ [segment]⟩

/-- Segments after one more, the last one first; `..` takes one back. -/
def climb (reversed : List Text) (segment : Text) : List Text :=
  if segment = ".." then reversed.drop 1 else segment :: reversed

/-- The absolute path without `..` that a path names from a directory. -/
def resolve (directory path : Path) : Path :=
  let joined := directory.join path
  ⟨.root, (joined.segments.foldl climb []).reverse⟩

/-- The paths of the directories that lead to a path, from the root on, the path itself included. -/
def ancestors (path : Path) : List Path :=
  (List.range path.segments.length).map fun count => ⟨path.start, path.segments.take (count + 1)⟩

end Path

end BlobCatalog
