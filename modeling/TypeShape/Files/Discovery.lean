/-
Which files a list of patterns selects.

Patterns come first, then the patterns of their brace groups, then paths by code points;
a file that is selected twice stands where it was selected first. Below the directory
that a pattern names before its first wildcard, directories of built and foreign files
are passed over. This directory is looked up even if nothing is there, and a null character
in its name is a fault.
-/
import TypeShape.Fault
import TypeShape.Files.Brace
import TypeShape.Files.Glob

namespace TypeShape.Discovery

-- ============================================================== excluding

/-- The names of directories that are passed over. -/
def excludedNames : List Text :=
  List.map String.toList
    ["node_modules", ".git", ".svn", ".hg", "dist", "build", ".next", ".nuxt", ".cache",
      "coverage", "bower_components"]

/-- The directories that a pattern names before its first wildcard, one in the other. -/
def leading (pattern : Text) : List Text :=
  (Path.parts pattern).dropLast.takeWhile fun part => !Wildcard.isIn part

/-- The place of the directory that a pattern names before its first wildcard. -/
def base (root : List Text) (pattern : Text) : List Text :=
  Path.follow (if Path.isAbsolute pattern then [] else root) (leading pattern)

/-- Whether a directory on the way to a file is passed over. Only directories below the
base count, or all of them if the file is not below the base. -/
def isExcluded (base file : List Text) : Bool :=
  let below := if base.isPrefixOf file then file.drop base.length else file
  below.dropLast.any excludedNames.elem

-- ============================================================== selecting

/-- Alphabetical order by code points. -/
def inOrder (a b : Text) : Bool :=
  !(decide (b < a))

/-- The full paths that a pattern without groups matches, in order. Relative patterns
start from the root, if there is one. -/
def matched (tree : FileTree) (root : Option (List Text)) (pattern : Text) : List Text :=
  let full :=
    if Path.isAbsolute pattern then Glob.paths tree [] pattern
    else match root with
      | some place =>
        (Glob.paths tree (Path.absolute place) pattern).map fun path =>
          Path.absolute (place ++ Path.parts path)
      | none => []
  full.mergeSort inOrder

/-- The places of the files that a pattern without groups selects. -/
def selected (tree : FileTree) (root : Option (List Text)) (pattern : Text) :
    List (List Text) :=
  let places := (matched tree root pattern).map fun path => Path.follow [] (Path.parts path)
  places.filter fun place =>
    tree.isFileAt place && !isExcluded (base (root.getD []) pattern) place

/-- The first occurrences in a list. -/
def firsts (places : List (List Text)) : List (List Text) :=
  places.foldl (fun seen place => if seen.elem place then seen else seen ++ [place]) []

/-- The place of the root directory; a root that is no absolute path has none. -/
def rootPlace? (root : Text) : Option (List Text) :=
  if Path.isAbsolute root then some (Path.follow [] (Path.parts root)) else none

/-- The files that patterns select, of which there has to be one. -/
def files (tree : FileTree) (root : Text) (patterns : List Text) : Except Fault (List Text) :=
  let found := firsts ((patterns.flatMap Brace.expand).flatMap (selected tree (rootPlace? root)))
  if found.isEmpty then .error (.noFiles patterns) else .ok (found.map Path.absolute)

-- ================================================================ calling

/-- Look up a directory by the names on the way to it. It need not be there, but no name
can have a null character. -/
def lookUp (names : List Text) : Except Fault Unit :=
  if names.any (·.elem '\x00') then .error .nullCharacter else .ok ()

/-- A pattern that a caller gives: a text whose groups stand for patterns with leading
directories that can be looked up. -/
def patternOfJson : Json → Except Fault Text
  | .str pattern => do
    (Brace.expand pattern).forM fun expanded => lookUp (leading expanded)
    return pattern
  | _ => .error .notPattern

/-- Patterns as a caller gives them: one or several. -/
def itemsOfJson : Json → Except Fault (List Json)
  | .str pattern => .ok [.str pattern]
  | .arr items => .ok items
  | .obj entries => .ok (entries.map fun (key, _) => .str key)
  | _ => .error .wrongArguments

/-- The files that the patterns of a caller select. -/
def select (tree : FileTree) (root : Text) (patterns : Json) : Except Fault (List Text) := do
  let items ← itemsOfJson patterns
  lookUp (Path.parts root)
  files tree root (← items.mapM patternOfJson)

end TypeShape.Discovery
