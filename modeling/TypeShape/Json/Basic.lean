/-
JSON values. Whole numbers are unbounded and kept apart from floating-point ones, and
an object keeps its entries in order; a key stands at most once in an object that was
read from text.
-/
import TypeShape.Number.Binary64
import TypeShape.Text.Basic

namespace TypeShape

/-- A JSON value. -/
inductive Json
  | null
  | bool (value : Bool)
  | int (value : Int)
  | float (value : Binary64)
  | str (value : Text)
  | arr (items : List Json)
  | obj (entries : List (Text × Json))
deriving Inhabited, BEq

namespace Json

/-- The value under a key. -/
def lookup? (entries : List (Text × Json)) (key : Text) : Option Json :=
  (entries.find? fun (k, _) => k == key).map (·.2)

/-- Set the value of a key: in place if the key is there, else at the end. -/
def insert (key : Text) (value : Json) : List (Text × Json) → List (Text × Json)
  | [] => [(key, value)]
  | (k, v) :: rest => if k == key then (k, value) :: rest else (k, v) :: insert key value rest

mutual

/-- Whether two values are the same but for the order of entries. -/
def alike : Json → Json → Bool
  | .null, .null => true
  | .bool a, .bool b => a == b
  | .int i, .int j => i == j
  | .float x, .float y => x == y
  | .str s, .str t => s == t
  | .arr items, .arr others => alikeItems items others
  | .obj entries, .obj others =>
    entries.length == others.length && alikeEntries entries others
  | _, _ => false
termination_by structural v => v

/-- Whether two lists of values are the same but for the order of entries. -/
def alikeItems : List Json → List Json → Bool
  | [], [] => true
  | item :: items, other :: others => alike item other && alikeItems items others
  | _, _ => false
termination_by structural items => items

/-- Whether the same values, but for the order of entries, stand under the keys. -/
def alikeEntries : List (Text × Json) → List (Text × Json) → Bool
  | [], _ => true
  | (key, value) :: entries, others =>
    (match lookup? others key with
      | some other => alike value other
      | none => false) && alikeEntries entries others
termination_by structural entries => entries

end

/-- The name of a value's kind in messages. -/
def kindName : Json → Text
  | .null => "NoneType"
  | .bool _ => "bool"
  | .int _ => "int"
  | .float _ => "float"
  | .str _ => "str"
  | .arr _ => "list"
  | .obj _ => "dict"

/-- Whether a value counts as yes: not null, false, zero or empty. -/
def isTruthy : Json → Bool
  | .null => false
  | .bool b => b
  | .int i => i != 0
  | .float x => !x.isZero
  | .str s => !s.isEmpty
  | .arr xs => !xs.isEmpty
  | .obj es => !es.isEmpty

end Json

end TypeShape
