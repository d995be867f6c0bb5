/-
Sessions: a registry that grows step by step, under a configuration that may change.

A step that fails leaves the registry alone. Reading an inline literal, a source text or a
file needs the source parser, which needs a usable configuration the first time.
-/
import TypeShape.Batch.Basic
import TypeShape.Config.Setup
import TypeShape.Files.Load

namespace TypeShape

/-- The registry at work, registries put aside, and the configuration over time. -/
structure Session where
  registry : Registry
  saved : Table Registry
  setup : Setup

namespace Session

/-- Nothing is registered. -/
def initial : Session :=
  { registry := .empty, saved := [], setup := .initial }

-- ============================================================== registry

/-- Put the registry aside under a name. -/
def save (s : Session) (name : Text) : Session :=
  { s with saved := s.saved.set name s.registry }

/-- Go on with a registry that was put aside. -/
def use? (s : Session) (name : Text) : Option Session :=
  (s.saved.find? name).map fun registry => { s with registry }

/-- Change the registry. -/
def withRegistry (s : Session) (f : Registry → Registry) : Session :=
  { s with registry := f s.registry }

-- ============================================================= resolving

/-- How inline literals are read: not at all without a usable configuration. -/
def reader (s : Session) : LiteralReader :=
  match s.setup.getParser with
  | .ok _ => Source.readLiteral
  | .error fault => fun _ _ => .error (.configuration fault)

/-- After a computation that may have needed the parser. -/
def after {α : Type} (s : Session) (x : Traced α) : Session :=
  if x.readsLiteral then
    match s.setup.getParser with
    | .ok (_, setup) => { s with setup }
    | .error _ => s
  else s

/-- Resolve a type; models of inline objects are named after the given name. -/
def resolve (s : Session) (name t : Text) : Session × Traced Schema :=
  let x := (Plan.ofPropertyType s.reader s.registry name t).run
  (s.after x, x)

/-- Register what a computation makes, if it makes something. -/
def register (name : Text) (step : Session × Traced Schema) : Session × Traced Schema :=
  match step with
  | (s, x) =>
    match x.result with
    | .ok schema => (s.withRegistry (·.withInterface name schema), x)
    | .error _ => (s, x)

/-- Resolve a type and register it under a name. -/
def addType (s : Session) (name t : Text) : Session × Traced Schema :=
  register name (s.resolve name t)

/-- Resolve a declaration from loose data and register it under its name. -/
def addDeclaration (s : Session) (item : Json) : Session × Traced Schema :=
  match Declaration.ofJson item with
  | .error what => (s, .ofResult (.error (.malformed what)))
  | .ok d =>
    let x := Batch.resolve s.reader s.registry d
    register d.name (s.after x, x)

-- ================================================================= files

/-- Resolve the declarations of a file, and register them if all of them resolve. -/
def addFile (s : Session) (file : BatchFile) : Session × Traced Outcome :=
  match s.setup.getConfig with
  | .error fault => (s, .ofResult (.error (.configuration fault)))
  | .ok (c, setup) =>
    let s := { s with setup }
    let x := Batch.resolveFile s.reader c.suffix s.registry file
    let s := s.after x
    match x.result with
    | .ok o => ({ s with registry := o.registry }, x)
    | .error _ => (s, x)

/-- Load files with the parser; the first file without declarations ends it. -/
def load (s : Session) (tree : FileTree) (paths : List Text) :
    Session × Except Fault (List ParsedFile) :=
  match s.setup.getParser with
  | .error fault => (s, .error (.configuration fault))
  | .ok (limit, setup) => ({ s with setup }, tree.load limit paths)

/-- Parse a source text, and go on with its declarations. -/
def addSource (s : Session) (path t : Text) : Session × Traced Outcome :=
  match s.setup.getParser with
  | .error fault => (s, .ofResult (.error (.configuration fault)))
  | .ok (_, setup) =>
    let s := { s with setup }
    match Source.read t path with
    | .error fault => (s, .ofResult (.error fault))
    | .ok file => s.addFile (.parsed file)

end Session

end TypeShape
