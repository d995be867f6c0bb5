/-
Declarations: the interfaces and classes of a source file, reduced to what validation
needs. The type of a property is kept as raw text; it gets its meaning when it is
resolved.
-/
import TypeShape.Json.Basic

namespace TypeShape

/-- A property of an interface or class: its key, its raw type and whether it may be
left out. -/
structure Property where
  name : Text
  type : Text
  isOptional : Bool
deriving DecidableEq, Inhabited

/-- A named interface or class. Its kind and the line of its name are carried along and
never looked at, so loose data may put any value there. -/
structure Declaration where
  name : Text
  kind : Json
  properties : List Property
  line : Json
deriving BEq, Inhabited

/-- The declarations of one file, in source order. -/
structure ParsedFile where
  path : Text
  declarations : List Declaration
deriving BEq, Inhabited

namespace Declaration

/-- The kind of a declaration that does not say what it is. -/
def interfaceKind : Json := .str "interface"

/-- The kind of classes, abstract ones included. -/
def classKind : Json := .str "class"

end Declaration

end TypeShape
