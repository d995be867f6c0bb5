/-
Type expressions as text: what is removed from them before they are read, how modifiers
are chained to a base type, and how a name is applied to parameters.

Printed type texts can hold an empty object that was broken over two lines, `{`, line
break, `}`, where the line break may also be written as a backslash and an `n`. Such
an artifact is removed together with the character before it.

`strip` edits the text it searches, so a removal may bring two halves of another
artifact together; the search goes on at the seam, and what was brought together
there is not found by it. An artifact at the very start has no character before it
and stays.

A chain is a base type with modifiers after `&`. The split knows no nesting: every `&`
separates. The mark `<>` at the end of the looked-up name `Name<a, b>` keeps entries
that take parameters apart from plain ones.
-/
import TypeShape.Text.Basic

namespace TypeShape.TypeText

-- ============================================================= artifacts

/-- The two spellings of an empty object over two lines, in the order they are removed. -/
def artifacts : List Text :=
  ["\x7b\\n\x7d", "\x7b\n\x7d"]

/-- Remove one artifact from `start` on. Every round either shortens the text or leaves
the start of the text for good, so `2 * length + 1` rounds are enough. -/
def stripFrom (artifact : Text) : Nat → Nat → Text → Text
  | 0, _, t => t
  | rounds + 1, start, t =>
    match t.indexFrom? artifact start with
    | none => t
    | some 0 => stripFrom artifact rounds artifact.length t
    | some (i + 1) =>
      stripFrom artifact rounds i (t.take i ++ t.drop (i + 1 + artifact.length))

/-- The text without the occurrences of one artifact that follow a character. -/
def stripOne (t artifact : Text) : Text :=
  stripFrom artifact (2 * t.length + 1) 0 t

/-- The text without artifacts. -/
def strip (t : Text) : Text :=
  artifacts.foldl stripOne t

-- ================================================================ chains

/-- What stands between the base type and its modifiers. -/
def separator : Char := '&'

/-- A base type and the modifiers chained to it, in order. -/
structure Chain where
  base : Text
  modifiers : List Text
deriving DecidableEq

/-- Read a chain: the pieces between the separators, trimmed, after the artifacts are
gone. The first piece is the base, which may be empty. -/
def Chain.read (t : Text) : Chain :=
  match (Text.pieces separator (strip t)).map Text.trim with
  | [] => ⟨[], []⟩
  | base :: modifiers => ⟨base, modifiers⟩

-- ========================================================= applied names

/-- A name as it is looked up, and the parameters it is applied to. -/
structure Applied where
  name : Text
  parameters : List Text
deriving DecidableEq

/-- Read a name and its parameters. The group runs from the first `<`, which may not
open the text, to the first `>` that leaves at least one character inside; what
follows it is dropped. Without such a group the text itself is the name. -/
def Applied.read (t : Text) : Applied :=
  match Text.cut? '<' t with
  | some (b :: base, first :: after) =>
    match Text.cut? '>' after with
    | some (inner, _) =>
      ⟨b :: base ++ "<>", (Text.pieces ',' (first :: inner)).map Text.trim⟩
    | none => ⟨t, []⟩
  | _ => ⟨t, []⟩

end TypeShape.TypeText
