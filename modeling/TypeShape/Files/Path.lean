/-
Paths as text: parts between slashes. A path that starts with a slash is absolute.
Empty parts and single dots say nothing; a double dot leads back out of a directory.
-/
import TypeShape.Text.Basic

namespace TypeShape.Path

/-- What stands between the parts of a path. -/
def slash : Char := '/'

/-- Absolute: starting at the root of all files. -/
def isAbsolute (path : Text) : Bool :=
  path.head? == some slash

/-- The parts of a path that say something. -/
def parts (path : Text) : List Text :=
  (Text.pieces slash path).filter fun part => !(part.isEmpty || part == ['.'])

/-- The absolute path of some parts. -/
def absolute (names : List Text) : Text :=
  slash :: Text.join [slash] names

/-- Follow parts from a place, where double dots lead back; nothing leads out of the
root. The place has its last name first. -/
def followReversed : List Text → List Text → List Text
  | place, [] => place
  | place, part :: rest =>
    if part = ['.', '.'] then followReversed (place.drop 1) rest
    else followReversed (part :: place) rest

/-- The place that parts lead to from another one. -/
def follow (place names : List Text) : List Text :=
  (followReversed place.reverse names).reverse

/-- Put a part behind a path with one slash in between; an empty path adds nothing. -/
def append (path part : Text) : Text :=
  match path.getLast? with
  | none => part
  | some c => if c = slash then path ++ part else path ++ slash :: part

/-- The path before its last slash, without the slashes there unless nothing else is
left, and the part after it. -/
def split (path : Text) : Text × Text :=
  let name := (path.reverse.takeWhile (· != slash)).reverse
  let before := path.take (path.length - name.length)
  let bare := (before.reverse.dropWhile (· == slash)).reverse
  (if bare.isEmpty then before else bare, name)

end TypeShape.Path
