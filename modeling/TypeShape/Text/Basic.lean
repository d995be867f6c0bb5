/-
Text and the few scanning operations that everything above is built from.

All rules of this library count, cut and classify by code point, so a text is the list
of its code points and every scan is a recursion on that list. A string literal is
read as a text wherever one is expected.
-/
import TypeShape.Text.Class

namespace TypeShape

/-- Text, as the list of its code points. -/
abbrev Text := List Char

instance : Coe String Text := ⟨String.toList⟩

namespace Text

-- ============================================================ trimming

/-- The text without the blanks at its start. -/
def trimLeft (t : Text) : Text :=
  t.dropWhile isBlank

/-- The text without the blanks at its end. -/
def trimRight (t : Text) : Text :=
  (t.reverse.dropWhile isBlank).reverse

/-- The text without the blanks at both ends. -/
def trim (t : Text) : Text :=
  trimRight (trimLeft t)

-- =========================================================== searching

/-- The index of the first occurrence of `needle`. -/
def indexOf? (needle : Text) : Text → Option Nat
  | [] => if needle.isEmpty then some 0 else none
  | c :: rest =>
    if needle.isPrefixOf (c :: rest) then some 0 else (indexOf? needle rest).map (· + 1)

/-- The index of the first occurrence of `needle` that starts at `start` or later. -/
def indexFrom? (t needle : Text) (start : Nat) : Option Nat :=
  (indexOf? needle (t.drop start)).map (· + start)

/-- Whether `needle` occurs in the text. -/
def includes (t needle : Text) : Bool :=
  (indexOf? needle t).isSome

/-- What stands before and after the first occurrence of a character. -/
def cut? (mark : Char) : Text → Option (Text × Text)
  | [] => none
  | c :: rest =>
    if c = mark then some ([], rest)
    else (cut? mark rest).map fun (before, after) => (c :: before, after)

/-- The text before an ending, if the text has that ending. -/
def dropSuffix? (t suffix : Text) : Option Text :=
  if suffix.isSuffixOf t then some (t.take (t.length - suffix.length)) else none

-- ============================================================ splitting

/-- The pieces between the occurrences of a separator; there is always at least one. -/
def pieces (separator : Char) : Text → List Text
  | [] => [[]]
  | c :: rest =>
    if c = separator then [] :: pieces separator rest
    else match pieces separator rest with
      | [] => [[c]]
      | piece :: others => (c :: piece) :: others

/-- The pieces with a separator between each two of them. -/
def join (separator : Text) (parts : List Text) : Text :=
  separator.intercalate parts

end Text

end TypeShape
