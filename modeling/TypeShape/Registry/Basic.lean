/-
Registries: the types, modifiers and earlier declarations that names can mean.

A registry is a value. Adding to one of its tables leaves the others alone. Types and
modifiers can be replaced; the schema of a declaration is kept once it is there.
-/
import TypeShape.Fault
import TypeShape.Schema.Basic

namespace TypeShape

-- ================================================================ tables

/-- A table of named entries in the order in which the names came. -/
abbrev Table (α : Type) := List (Text × α)

namespace Table

variable {α : Type}

/-- The entry of a name. -/
def find? (t : Table α) (name : Text) : Option α :=
  (List.find? (fun e => e.1 == name) t).map (·.2)

/-- The names in order. -/
def names (t : Table α) : List Text :=
  t.map (·.1)

/-- Give a name an entry, in place of the one it has. -/
def set (name : Text) (entry : α) : Table α → Table α
  | [] => [(name, entry)]
  | (n, e) :: rest => if n == name then (n, entry) :: rest else (n, e) :: set name entry rest

/-- Give a name an entry unless it has one. -/
def add (t : Table α) (name : Text) (entry : α) : Table α :=
  if (t.find? name).isSome then t else t ++ [(name, entry)]

end Table

-- ============================================================ registries

/-- Makes a schema from the parameters of a type name, or declines. -/
abbrev Factory := List Text → Except Fault (Option Schema)

/-- Changes a schema by the parameters of a modifier, or leaves it as it is. -/
abbrev Modifier := Schema → List Text → Except Fault (Option Schema)

/-- What names mean. A name with parameters is looked up with the mark `<>`. -/
structure Registry where
  types : Table Factory
  modifiers : Table Modifier
  interfaces : Table Schema

namespace Registry

/-- The registry that knows only the built-in types. -/
def empty : Registry :=
  { types := [], modifiers := [], interfaces := [] }

/-- Also know a declaration; one that is known already stays. -/
def withInterface (r : Registry) (name : Text) (schema : Schema) : Registry :=
  { r with interfaces := r.interfaces.add name schema }

/-- Also know types; later ones replace earlier ones. -/
def withTypes (r : Registry) (types : Table Factory) : Registry :=
  { r with types := types.foldl (fun t (name, f) => t.set name f) r.types }

/-- Also know modifiers; later ones replace earlier ones. -/
def withModifiers (r : Registry) (modifiers : Table Modifier) : Registry :=
  { r with modifiers := modifiers.foldl (fun t (name, m) => t.set name m) r.modifiers }

end Registry

end TypeShape
