/-
Schemas: what the types of declarations mean for data.

A schema says which JSON values are accepted and what they become. Models accept
objects with exactly their keys. A reference keeps the name under which an earlier
declaration was found beside the schema it stands for: it accepts what that schema
accepts, but two references to one name are known to be one model.
-/
import TypeShape.Declaration.Basic

namespace TypeShape

/-- A field of a model: its key, whether the key must be present, and its schema. -/
structure Field (σ : Type) where
  key : Text
  required : Bool
  schema : σ
deriving BEq

/-- Limits of a length, both inclusive. -/
structure LengthLimits where
  least : Option Int := none
  most : Option Int := none
deriving DecidableEq, Inhabited

/-- Limits of a number, both inclusive. -/
structure NumberLimits where
  least : Option Binary64 := none
  most : Option Binary64 := none
deriving DecidableEq, Inhabited

/-- A schema. -/
inductive Schema
  | any
  | string (length : LengthLimits)
  | number (limits : NumberLimits)
  | boolean
  | object
  | date
  | list (item : Schema) (length : LengthLimits)
  | model (name : Text) (fields : List (Field Schema))
  | reference (name : Text) (target : Schema)
deriving Inhabited, BEq

namespace Schema

/-- The schema that `references` stand for. -/
def target : Schema → Schema
  | .reference _ s => target s
  | s => s

/-- Lists of a schema. -/
def arrayOf (item : Schema) : Schema :=
  .list item {}

/-- Lists of lists of … of a schema. -/
def nested : Nat → Schema → Schema
  | 0, s => s
  | n + 1, s => arrayOf (nested n s)

/-- The built-in types by name. -/
def builtIns : List (Text × Schema) :=
  [("any", .any), ("string", .string {}), ("number", .number {}), ("boolean", .boolean),
    ("Object", .object), ("false", .boolean), ("true", .boolean), ("Date", .date)]

/-- The schema of a built-in type. -/
def builtIn? (name : Text) : Option Schema :=
  (builtIns.find? fun (n, _) => n == name).map (·.2)

-- ========================================================== constraints

/-- A limit that a modifier puts on a schema. -/
inductive Constraint
  | mostLength (n : Int)
  | leastLength (n : Int)
  | most (x : Binary64)
  | least (x : Binary64)

/-- Put a limit on a schema; of two limits of one kind the later stands. A limit that
does not apply to the kind of schema changes nothing. -/
def constrain : Schema → Constraint → Schema
  | .string l, .mostLength n => .string { l with most := some n }
  | .string l, .leastLength n => .string { l with least := some n }
  | .list s l, .mostLength n => .list s { l with most := some n }
  | .list s l, .leastLength n => .list s { l with least := some n }
  | .number l, .most x => .number { l with most := some x }
  | .number l, .least x => .number { l with least := some x }
  | .reference n s, c => .reference n (constrain s c)
  | s, _ => s

-- =============================================================== models

/-- Fields by key: a key that comes again keeps its place and takes the later schema. -/
def insertField (field : Field Schema) : List (Field Schema) → List (Field Schema)
  | [] => [field]
  | f :: rest => if f.key == field.key then field :: rest else f :: insertField field rest

/-- A model with the given fields, each key once. -/
def modelOf (name : Text) (fields : List (Field Schema)) : Schema :=
  .model name (fields.foldl (fun read f => insertField f read) [])

end Schema

end TypeShape
