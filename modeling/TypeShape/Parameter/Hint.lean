/-
What the declaration of a parameter says about its values: one kind of value, or a
choice of several.

Only lists and objects matter, since these are what a text can be read as, and plain
text, since a parameter that accepts it keeps a text that cannot be read.
-/
import TypeShape.Json.Basic

namespace TypeShape

/-- The kinds of values that a text can be read as. -/
inductive Collection
  | list
  | object
deriving DecidableEq

/-- One kind of value. -/
inductive Kind
  | text
  | collection (c : Collection)
  | other
deriving DecidableEq

/-- What a parameter accepts: one kind, or any of several. -/
inductive Hint
  | single (kind : Kind)
  | choice (kinds : List Kind)
deriving DecidableEq

namespace Collection

/-- The character that the JSON text of such a value starts with. -/
def opener : Collection → Char
  | .list => '['
  | .object => '{'

/-- The name of such values in messages. -/
def name : Collection → Text
  | .list => "list"
  | .object => "dict"

/-- Whether a value is such a one. -/
def holds : Collection → Json → Bool
  | .list, .arr _ => true
  | .object, .obj _ => true
  | _, _ => false

end Collection

-- =============================================================== reading

namespace Kind

/-- The name before the parameters of a written kind. -/
def head (t : Text) : Text :=
  Text.trimRight (t.takeWhile (· != '['))

/-- Read a kind; its parameters do not matter. -/
def read (t : Text) : Kind :=
  if head t = "list" ∨ head t = "List" then .collection .list
  else if head t = "dict" ∨ head t = "Dict" then .collection .object
  else if t = "str" then .text
  else .other

/-- A choice spelled as a name with parameters is not looked into. -/
def isSpelledChoice (t : Text) : Bool :=
  head t == "Optional".toList || head t == "Union".toList

end Kind

namespace Hint

/-- The pieces between the bars outside of brackets. -/
def alternatives (depth : Nat) : Text → List Text
  | [] => [[]]
  | c :: rest =>
    if c = '|' ∧ depth = 0 then [] :: alternatives depth rest
    else
      let depth := if c = '[' then depth + 1 else if c = ']' then depth - 1 else depth
      match alternatives depth rest with
      | [] => [[c]]
      | piece :: others => (c :: piece) :: others

/-- Read a written hint. The same kind twice counts once. -/
def read (t : Text) : Hint :=
  let kinds := ((alternatives 0 t).map Text.trim).eraseDups
  match kinds with
  | [kind] => .single (.read kind)
  | kinds =>
    if kinds.any Kind.isSpelledChoice then .single .other else .choice (kinds.map .read)

end Hint

end TypeShape
