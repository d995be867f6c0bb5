/-
How values are shown inside messages: texts in single quotes unless only single quotes
occur in them, and the words `None`, `True` and `False`.
-/
import TypeShape.Json.Writer
import TypeShape.Text.Printable

namespace TypeShape.Json

/-- A number in hexadecimal with at least the given count of digits. -/
def hexPadded (width n : Nat) : Text :=
  let digits := Nat.toDigits 16 n
  List.replicate (width - digits.length) '0' ++ digits

/-- How a character is shown between the given quotes. -/
def showChar (quote c : Char) : Text :=
  if c = quote ∨ c = '\\' then ['\\', c]
  else if c = '\n' then "\\n"
  else if c = '\r' then "\\r"
  else if c = '\t' then "\\t"
  else if isPrintable c then [c]
  else if c.toNat < 0x100 then '\\' :: 'x' :: hexPadded 2 c.toNat
  else if c.toNat < 0x10000 then '\\' :: 'u' :: hexPadded 4 c.toNat
  else '\\' :: 'U' :: hexPadded 8 c.toNat

/-- A text in quotes, as messages show it. -/
def showText (t : Text) : Text :=
  let quote := if t.contains '\'' && !(t.contains '"') then '"' else '\''
  quote :: t.flatMap (showChar quote) ++ [quote]

mutual

/-- A value, as messages show it. -/
def display : Json → Text
  | .null => "None"
  | .bool b => if b then "True" else "False"
  | .int i => intText i
  | .float x => x.toText
  | .str s => showText s
  | .arr items => '[' :: Text.join ", " (displayItems items) ++ [']']
  | .obj entries => '{' :: Text.join ", " (displayEntries entries) ++ ['}']
termination_by structural j => j

/-- The items of a list, as messages show them. -/
def displayItems : List Json → List Text
  | [] => []
  | item :: items => display item :: displayItems items
termination_by structural items => items

/-- The entries of an object, as messages show them. -/
def displayEntries : List (Text × Json) → List Text
  | [] => []
  | (key, value) :: entries => (showText key ++ ": " ++ display value) :: displayEntries entries
termination_by structural entries => entries

end

end TypeShape.Json
