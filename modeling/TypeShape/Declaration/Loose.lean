/-
Declarations from loose data: objects that have the shape of a declaration, say
because they were read back from JSON text.

A name has to be text. A missing or empty type means any value, a missing or empty
list of properties none, and whether a property may be left out is asked for under two
spellings.
-/
import TypeShape.Declaration.Basic
import TypeShape.Fault

namespace TypeShape

/-- A value that counts as yes, and nothing for one that counts as no. -/
def Json.truthy? (value : Option Json) : Option Json :=
  value.filter Json.isTruthy

namespace Property

/-- The type of a property that gives none. -/
def anyType : Text := "any"

/-- Whether loose data marks a property as one that may be left out. -/
def optionalMark (entries : List (Text × Json)) : Bool :=
  match Json.lookup? entries "is_optional" with
  | some mark => mark.isTruthy
  | none => ((Json.lookup? entries "isOptional").map Json.isTruthy).getD false

/-- A property from loose data. -/
def ofJson : Json → Except ShapeFault Property
  | .obj entries =>
    match (Json.lookup? entries "name").getD .null with
    | .str name =>
      match Json.truthy? (Json.lookup? entries "type") with
      | none => .ok { name, type := anyType, isOptional := optionalMark entries }
      | some (.str type) => .ok { name, type, isOptional := optionalMark entries }
      | some other => .error (.typeNotText name other)
    | other => .error (.nameNotText other)
  | other => .error (.propertyNotObject other)

end Property

namespace Declaration

/-- The properties from loose data, up to the first that is none. -/
def propertiesOfJson : List Json → Except ShapeFault (List Property)
  | [] => .ok []
  | item :: rest => do
    let p ← Property.ofJson item
    return p :: (← propertiesOfJson rest)

/-- The declaration of a given name from loose data. -/
def ofEntries (name : Text) (entries : List (Text × Json)) : Except ShapeFault Declaration := do
  let properties ← match Json.truthy? (Json.lookup? entries "properties") with
    | none => .ok []
    | some (.arr items) => propertiesOfJson items
    | some other => .error (.propertiesNotList other)
  return {
    name
    kind := (Json.lookup? entries "kind").getD interfaceKind
    properties
    line := (Json.lookup? entries "line").getD .null }

/-- A declaration from loose data: an object with a name that is text. -/
def ofJson (item : Json) : Except Malformed Declaration :=
  match item with
  | .obj entries =>
    match Json.lookup? entries "name" with
    | some (.str name) => (ofEntries name entries).mapError (.body name)
    | _ => .error (.declaration item)
  | _ => .error (.declaration item)

end Declaration

end TypeShape
