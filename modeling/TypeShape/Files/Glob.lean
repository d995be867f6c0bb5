/-
Path patterns over a tree of files.

A pattern is taken apart into the longest start that has no wildcards and the parts
after it. The start is taken as it is; each part then adds to every path found so far
the names that fit: a part without wildcards its own name if it is there, a double star
every depth of directories, any other part the names that match. Wildcards pass over
names that start with a dot unless the part does so itself.
-/
import TypeShape.Files.Tree
import TypeShape.Files.Wildcard

namespace TypeShape.Glob

/-- A pattern in parts: the start without wildcards, and the parts after it. -/
structure Pattern where
  start : Text
  parts : List Text
deriving DecidableEq

/-- Take parts off the end of a pattern as long as wildcards are left; each round takes
at least a character. -/
def Pattern.peel : Nat → Text → List Text → Pattern
  | 0, t, parts => ⟨t, parts⟩
  | rounds + 1, t, parts =>
    if Wildcard.isIn t then
      let (before, part) := Path.split t
      peel rounds before (part :: parts)
    else ⟨t, parts⟩

/-- Read a pattern. -/
def Pattern.read (t : Text) : Pattern :=
  peel t.length t []

/-- The part that stands for any depth of directories. -/
def anyDepth : Text := "**"

variable (tree : FileTree)

/-- What a part finds in the directory at a path: names, or paths below it. What other
parts are to follow has to be a directory. -/
def found (directory part : Text) (more : Bool) : List Text :=
  let here := (tree.find? directory).getD .empty
  if part = anyDepth then
    (if tree.isDirectoryAt directory then [[]] else []) ++ here.descend more
  else if Wildcard.isIn part then
    let names := here.entries.filter fun (name, t) =>
      (!more || t.isDirectory) && (part.head? == some '.' || name.head? != some '.')
    (names.map (·.1)).filter (Wildcard.matchesAll (Wildcard.read part))
  else if part.isEmpty then
    if tree.isDirectoryAt directory then [[]] else []
  else if (tree.locate? (Path.append directory part)).isSome then [part]
  else []

/-- Go on from paths with the parts that are left. -/
def extend (root : Text) : List Text → List Text → List Text
  | paths, [] => paths
  | paths, part :: rest =>
    let longer := paths.flatMap fun path =>
      let directory := if path.isEmpty then root else Path.append root path
      (found tree directory part (!rest.isEmpty)).map (Path.append path)
    extend root longer rest

/-- The paths that a pattern matches, relative ones seen from the root; for an absolute
pattern the root is empty. -/
def paths (root pattern : Text) : List Text :=
  let p := Pattern.read pattern
  if p.parts.isEmpty then
    if (tree.locate? (Path.append root pattern)).isSome then [pattern] else []
  else extend tree root [p.start] p.parts

end TypeShape.Glob
