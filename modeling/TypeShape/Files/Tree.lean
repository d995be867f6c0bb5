/-
A tree of files: directories of named entries, and files of bytes. There are no links,
so every place has one path.
-/
import TypeShape.Files.Path

namespace TypeShape

/-- A file or a directory with named entries. -/
inductive FileTree
  | file (bytes : List UInt8)
  | directory (entries : List (Text × FileTree))
deriving Inhabited

namespace FileTree

/-- A directory without entries. -/
def empty : FileTree :=
  .directory []

/-- Whether a tree is a directory. -/
def isDirectory : FileTree → Bool
  | .directory _ => true
  | .file _ => false

/-- The entries of a directory; a file has none. -/
def entries : FileTree → List (Text × FileTree)
  | .directory es => es
  | .file _ => []

/-- The entry of a name. -/
def entry? (t : FileTree) (name : Text) : Option FileTree :=
  (t.entries.find? fun e => e.1 == name).map (·.2)

/-- The tree at a place. -/
def get? : FileTree → List Text → Option FileTree
  | t, [] => some t
  | t, name :: rest => (t.entry? name).bind (get? · rest)

/-- Put a tree at a place; directories on the way are made. -/
def insert (new : FileTree) : List Text → FileTree → FileTree
  | [], _ => new
  | name :: rest, t =>
    let inner := insert new rest ((t.entry? name).getD empty)
    .directory (t.entries.filter (fun e => e.1 != name) ++ [(name, inner)])

-- =============================================================== walking

/-- Walk along the pieces of a path from a place, whose last name comes first. Only a
directory lets one go on, be it with an empty piece. -/
def walk (t : FileTree) : List Text → List Text → Option (List Text)
  | place, [] => some place
  | place, piece :: rest =>
    if ((t.get? place.reverse).map isDirectory).getD false then
      if piece.isEmpty || piece == ['.'] then walk t place rest
      else if piece == ['.', '.'] then walk t (place.drop 1) rest
      else if (t.get? (piece :: place).reverse).isSome then walk t (piece :: place) rest
      else none
    else none

/-- The place that an absolute path leads to; other paths lead nowhere. -/
def locate? (t : FileTree) (path : Text) : Option (List Text) :=
  if Path.isAbsolute path then (t.walk [] (Text.pieces Path.slash path)).map List.reverse
  else none

/-- The tree that an absolute path leads to. -/
def find? (t : FileTree) (path : Text) : Option FileTree :=
  (t.locate? path).bind t.get?

/-- Whether a path leads to a directory. -/
def isDirectoryAt (t : FileTree) (path : Text) : Bool :=
  ((t.find? path).map isDirectory).getD false

/-- Whether there is a file at a place. -/
def isFileAt (t : FileTree) (place : List Text) : Bool :=
  match t.get? place with
  | some (.file _) => true
  | _ => false

-- =============================================================== listing

mutual

/-- Everything below a directory that is not hidden, as paths from there; all the way
down, only directories if asked so. -/
def descend (directoriesOnly : Bool) : FileTree → List Text
  | .file _ => []
  | .directory entries => descendEntries directoriesOnly entries
termination_by structural t => t

/-- The entries of a directory that are not hidden, each before what is below it. -/
def descendEntries (directoriesOnly : Bool) : List (Text × FileTree) → List Text
  | [] => []
  | (name, t) :: rest =>
    let here :=
      if name.head? == some '.' || (directoriesOnly && !t.isDirectory) then []
      else name :: (descend directoriesOnly t).map fun path => name ++ Path.slash :: path
    here ++ descendEntries directoriesOnly rest
termination_by structural entries => entries

end

end FileTree

end TypeShape
