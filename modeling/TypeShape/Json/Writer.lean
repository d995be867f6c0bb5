/-
Writing JSON text in ASCII: one space after every comma and colon, and everything
outside printable ASCII as the hexadecimal code units of UTF-16.

`render` tells the text of any value. It is written only if no whole number in it has
too many digits.
-/
import TypeShape.Json.Basic
import TypeShape.Number.Digit
import TypeShape.Number.Shortest

namespace TypeShape.Json

-- =============================================================== strings

/-- A hexadecimal digit in lower case. -/
def hexChar (n : Nat) : Char :=
  Nat.digitChar n

/-- A code unit as an escape. -/
def unitEscape (n : Nat) : Text :=
  ['\\', 'u', hexChar (n / 4096 % 16), hexChar (n / 256 % 16), hexChar (n / 16 % 16),
    hexChar (n % 16)]

/-- How a character stands in a string. -/
def escape (c : Char) : Text :=
  if c = '"' then "\\\""
  else if c = '\\' then "\\\\"
  else if c = '\n' then "\\n"
  else if c = '\r' then "\\r"
  else if c = '\t' then "\\t"
  else if c = '\x0c' then "\\f"
  else if c = '\x08' then "\\b"
  else if 32 ≤ c.toNat ∧ c.toNat < 127 then [c]
  else if c.toNat < 0x10000 then unitEscape c.toNat
  else
    let n := c.toNat - 0x10000
    unitEscape (0xD800 + n / 0x400) ++ unitEscape (0xDC00 + n % 0x400)

/-- A text in quotes. -/
def quoted (t : Text) : Text :=
  '"' :: t.flatMap escape ++ ['"']

-- ================================================================ values

/-- A whole number in decimal digits. -/
def intText (i : Int) : Text :=
  let digits := Nat.toDigits 10 i.natAbs
  if i < 0 then '-' :: digits else digits

/-- A floating-point number, in the words of JSON where it is not finite. -/
def floatText : Binary64 → Text
  | .notANumber => "NaN"
  | .infinite negative => if negative then "-Infinity" else "Infinity"
  | x => x.toText

mutual

/-- The text of a value. -/
def render : Json → Text
  | .null => "null"
  | .bool b => if b then "true" else "false"
  | .int i => intText i
  | .float x => floatText x
  | .str s => quoted s
  | .arr items => '[' :: Text.join ", " (renderItems items) ++ [']']
  | .obj entries => '{' :: Text.join ", " (renderEntries entries) ++ ['}']
termination_by structural j => j

/-- The texts of the items of a list. -/
def renderItems : List Json → List Text
  | [] => []
  | item :: items => render item :: renderItems items
termination_by structural items => items

/-- The texts of the entries of an object. -/
def renderEntries : List (Text × Json) → List Text
  | [] => []
  | (key, value) :: entries => (quoted key ++ ": " ++ render value) :: renderEntries entries
termination_by structural entries => entries

end

-- =============================================================== the limit

mutual

/-- Whether no whole number in a value has too many digits. -/
def isWritable : Json → Bool
  | .int i => i.natAbs < firstLong
  | .arr items => areWritable items
  | .obj entries => haveWritable entries
  | _ => true
termination_by structural j => j

/-- Whether none has in the items of a list. -/
def areWritable : List Json → Bool
  | [] => true
  | item :: items => isWritable item && areWritable items
termination_by structural items => items

/-- Whether none has in the values of entries. -/
def haveWritable : List (Text × Json) → Bool
  | [] => true
  | (_, value) :: entries => isWritable value && haveWritable entries
termination_by structural entries => entries

end

/-- The text of a value, if its whole numbers can be written. -/
def write (v : Json) : Except LongNumber Text :=
  if v.isWritable then .ok v.render else .error .written

end TypeShape.Json
