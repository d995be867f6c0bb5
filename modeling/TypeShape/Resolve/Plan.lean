/-
Plans: what the resolution of a property will do, before anything is called.

Which inline objects a type holds, and how deep, does not depend on the registry's
functions. So a declaration is first laid out as a tree: a property is either settled,
with everything that happens to it, or it waits for the properties of an inline object
and goes on with the model that they make. In which order the parts of the tree happen
is left to those who run it.
-/
import TypeShape.Declaration.Basic
import TypeShape.Resolve.Base
import TypeShape.Text.Alphanumeric
import TypeShape.Text.Case

namespace TypeShape

/-- The resolution of one type. -/
inductive Plan
  /-- Everything happens at once. -/
  | settled (outcome : Traced Schema)
  /-- After the events of the start, the properties are resolved; `finish` goes on with
  the model that they make. -/
  | waiting (started : List Event) (name : Text) (properties : List (Property × Plan))
      (finish : Schema → Traced Schema)

/-- How inline literals are read: the declaration of a literal under a name. -/
abbrev LiteralReader := Text → Text → Except Fault Declaration

-- ================================================================= names

/-- The name of the model for an inline object: the owner's name and the letters,
digits and underscores of the property's key, the first of them in upper case. -/
def inlineName (owner key : Text) : Text :=
  match key.filter fun c => isAlphanumeric c || c == '_' with
  | [] => owner
  | c :: rest => owner ++ upperOf c ++ rest

-- ======================================================== inline objects

/-- The type inside one list layer of an inline object: between the outer brackets, or
before the last list suffix. -/
def listLayer? (t : Text) : Option Text :=
  match t with
  | '[' :: inside => some (Text.trim (inside.reverse.dropWhile (· != ']') |>.drop 1).reverse)
  | t => (Text.dropSuffix? t TypeText.listSuffix).map Text.trimRight

/-- The number of list layers around an object literal, and the literal. -/
def unwrapLists : Nat → Text → Nat × Text
  | 0, t => (0, t)
  | rounds + 1, t =>
    match listLayer? t with
    | some inner =>
      let (n, literal) := unwrapLists rounds inner
      (n + 1, literal)
    | none => (0, t)

namespace Plan

variable (read : LiteralReader) (r : Registry)

/-- An inline object type and the modifiers after it, or nothing if the type does not
start with an inline object or goes on with anything but modifiers. -/
def inlineObject? (t : Text) : Option (Text × List Text) := do
  let (object, rest) ← TypeText.splitObject? t
  match Text.trim rest with
  | [] => some (object, [])
  | c :: rest =>
    if c = TypeText.separator then some (object, (TypeText.Chain.read (c :: rest)).modifiers)
    else none

/-- The fields that the properties of a declaration make, given their schemas. -/
def fields (properties : List Property) (schemas : List Schema) : List (Field Schema) :=
  (properties.zip schemas).map fun (p, s) =>
    { key := p.name, required := !p.isOptional, schema := s }

/-- The plan of a type for a property whose inline object would get the given name.
`depth` bounds the nesting of inline objects. -/
def ofType : Nat → Text → Text → Plan
  | 0, _, t => .settled (.ofResult (.error (.unresolvable t)))
  | depth + 1, name, t =>
    let t := Text.trim t
    match inlineObject? t with
    | none => .settled (r.resolveExpression t)
    | some (object, modifiers) =>
      let (lists, literal) := unwrapLists object.length object
      let finish (s : Schema) := r.applyModifiers modifiers (s.nested lists)
      match read name literal with
      | .error e => .settled (.event .literal (.error e))
      | .ok d =>
        match d.properties with
        | [] => .settled ((finish (.modelOf d.name [])).after [.literal])
        | properties =>
          .waiting [.literal] d.name
            (properties.map fun p => (p, ofType depth (inlineName d.name p.name) p.type)) finish

/-- A bound on the nesting of a type: every inline object is shorter than what it stands
in, save perhaps for the outermost one, whose text the name may be a part of. -/
def depthFor (name t : Text) : Nat :=
  name.length + t.length + 2

/-- The plan of a type by itself. -/
def ofPropertyType (name t : Text) : Plan :=
  ofType read r (depthFor name t) name t

/-- The plan of a declaration. -/
def ofDeclaration (d : Declaration) : Plan :=
  match d.properties with
  | [] => .settled (pure (.modelOf d.name []))
  | properties =>
    .waiting [] d.name
      (properties.map fun p => (p, ofPropertyType read r (inlineName d.name p.name) p.type)) pure

-- ======================================================== running a plan

mutual

/-- Run a plan from left to right: one property after another, depth first. -/
def inOrder : Plan → Traced Schema
  | .settled outcome => outcome
  | .waiting started name properties finish => do
    let fields ← (inOrderAll properties).after started
    finish (.modelOf name fields)
termination_by structural plan => plan

/-- Run the plans of properties from left to right. -/
def inOrderAll : List (Property × Plan) → Traced (List (Field Schema))
  | [] => pure []
  | (p, plan) :: rest => do
    let s ← inOrder plan
    let others ← inOrderAll rest
    return { key := p.name, required := !p.isOptional, schema := s } :: others
termination_by structural properties => properties

end

end Plan

end TypeShape
