/-
Batches: many files, resolved in order.

Each declaration is resolved in the registry as the earlier ones left it and is then
known under its name. Validators are collected per file and then over all files, and
both times the first definition of a name stands and later ones are warned about. Any
failure ends the batch.
-/
import TypeShape.Declaration.Loose
import TypeShape.Resolve.Queue

namespace TypeShape

-- ================================================================= input

/-- A file of a batch: parsed, or loose data that should have the shape of one. -/
inductive BatchFile
  | parsed (file : ParsedFile)
  | loose (value : Json)

namespace BatchFile

/-- The path in a loose file, under either of its keys. -/
def loosePath (entries : List (Text × Json)) : Json :=
  (Json.lookup? entries "file_path").getD
    ((Json.lookup? entries "filePath").getD (.str "<unknown>"))

/-- The path as messages show it, and the declarations, each of which may turn out to
be none. -/
def contents : BatchFile → Except Malformed (Text × List (Except Malformed Declaration))
  | .parsed file => .ok (file.path, file.declarations.map .ok)
  | .loose (.obj entries) =>
    match Json.lookup? entries "declarations" with
    | some (.arr items) =>
      let path := match loosePath entries with
        | .str s => s
        | other => other.display
      .ok (path, items.map Declaration.ofJson)
    | _ => .error (.file (.obj entries))
  | .loose value => .error (.file value)

end BatchFile

-- ================================================================ output

/-- A definition that was dropped because its key is taken. -/
inductive Warning
  | inFile (key path : Text)
  | acrossFiles (key : Text)
deriving DecidableEq

/-- The wording of a warning. -/
def Warning.message : Warning → Text
  | .inFile key path => "Multiple definition of \"" ++ key ++ "\" in " ++ path
  | .acrossFiles key => "Multiple definition of \"" ++ key ++ "\" in selected files"

/-- What a batch, or a part of one, comes to. -/
structure Outcome where
  validators : Table Schema
  registry : Registry
  warnings : List Warning

-- ============================================================ resolution

namespace Batch

variable (read : LiteralReader) (suffix : Text)

/-- Resolve one declaration. -/
def resolve (r : Registry) (d : Declaration) : Traced Schema :=
  (Plan.ofDeclaration read r d).run

/-- Collect the schema of a declaration: the validator's key is the name with the suffix. -/
def collect (path : Text) (name : Text) (schema : Schema) (o : Outcome) : Outcome :=
  let key := name ++ suffix
  let registry := o.registry.withInterface name schema
  if (o.validators.find? key).isSome then
    { o with registry, warnings := o.warnings ++ [.inFile key path] }
  else { o with registry, validators := o.validators ++ [(key, schema)] }

/-- Resolve declarations one after another, on top of what there is. -/
def resolveAll (path : Text) : List (Except Malformed Declaration) → Outcome → Traced Outcome
  | [], o => pure o
  | item :: rest, o => do
    let d ← .ofResult (item.mapError .malformed)
    let schema ← resolve read o.registry d
    resolveAll path rest (collect suffix path d.name schema o)

/-- Resolve one file. -/
def resolveFile (r : Registry) (file : BatchFile) : Traced Outcome := do
  let (path, items) ← .ofResult (file.contents.mapError .malformed)
  resolveAll read suffix path items { validators := [], registry := r, warnings := [] }

/-- Resolve files one after another; the outcome of each is kept. -/
def resolveFiles (r : Registry) : List BatchFile → Traced (Registry × List Outcome)
  | [] => pure (r, [])
  | file :: rest => do
    let o ← resolveFile read suffix r file
    let (r, others) ← resolveFiles o.registry rest
    return (r, o :: others)

-- =============================================================== merging

/-- Add the validators of one file to those of earlier ones. -/
def mergeInto (validators : Table Schema) : Table Schema → Table Schema × List Warning
  | [] => (validators, [])
  | (key, schema) :: rest =>
    if (validators.find? key).isSome then
      let (validators, warnings) := mergeInto validators rest
      (validators, .acrossFiles key :: warnings)
    else mergeInto (validators ++ [(key, schema)]) rest

/-- The validators of all files, the first definition of a key first. -/
def merge (validators : Table Schema) : List (Table Schema) → Table Schema × List Warning
  | [] => (validators, [])
  | file :: rest =>
    let (validators, here) := mergeInto validators file
    let (validators, later) := merge validators rest
    (validators, here ++ later)

/-- Convert all files of a batch. -/
def convert (r : Registry) (files : List BatchFile) : Traced Outcome := do
  let (registry, outcomes) ← resolveFiles read suffix r files
  let (validators, warnings) := merge [] (outcomes.map (·.validators))
  return { validators, registry, warnings := outcomes.flatMap (·.warnings) ++ warnings }

end Batch

end TypeShape
