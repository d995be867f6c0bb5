/-
From files to validators: select, parse, resolve. The way can be cut at the JSON text
of the declarations, and both halves can be asked for as tools.
-/
import TypeShape.Batch.Basic
import TypeShape.Config.Basic
import TypeShape.Declaration.Exchange
import TypeShape.Files.Discovery
import TypeShape.Files.Load
import TypeShape.Parameter.Binding
import TypeShape.Schema.Document

namespace TypeShape

/-- The files there are and the configuration in force. -/
structure Workspace where
  files : FileTree
  config : Config

namespace Workspace

variable (w : Workspace)

-- sums start from the zero of the core library, also where a larger one brings its own
attribute [local instance (high)] Zero.ofOfNat0

-- ================================================================= steps

/-- The paths that patterns select and the declarations of the files there. -/
def parsed (patterns : Json) : Except Fault (List Text × List ParsedFile) := do
  let paths ← Discovery.select w.files w.config.root patterns
  return (paths, ← w.files.load w.config.sizeLimit paths)

/-- The validators of files. -/
def convert (r : Registry) (files : List BatchFile) : Traced Outcome :=
  Batch.convert Source.readLiteral w.config.suffix r files

/-- The validators of the files that patterns select. -/
def generate (r : Registry) (patterns : Json) : Traced Outcome := do
  let (_, files) ← .ofResult (w.parsed patterns)
  w.convert r (files.map .parsed)

/-- The declarations of the files that patterns select, as JSON text. -/
def exported (patterns : Json) : Except Fault Text := do
  (Exchange.dump (← w.parsed patterns).2).mapError .longNumber

/-- The validators of declarations that were written as JSON text. -/
def imported (r : Registry) (t : Text) : Traced Outcome := do
  let files ← .ofResult (Exchange.load t)
  w.convert r (files.map .loose)

-- ================================================================= tools

/-- What tools answer. -/
inductive Answer
  | declarations (text : Text) (paths : List Text) (total : Nat)
  | documents (schemas : Table Json)

/-- A fault of generation becomes the fault of a task; other faults stay. -/
def during {α : Type} (task : Task) (x : Except Fault α) : Except Fault α :=
  x.mapError fun fault => if fault.isGeneration then .failed task fault else fault

/-- Export the declarations that patterns select. -/
def exportTool (patterns : Json) : Except Fault Answer := do
  let (paths, files) ← during .exporting (w.parsed patterns)
  let text ← (Exchange.dump files).mapError .longNumber
  return .declarations text paths (files.map fun f => f.declarations.length).sum

/-- The validators of given declarations, or else of the files that patterns select. -/
def source (patterns declarations : Json) : Except Fault Outcome :=
  match declarations with
  | .null => (w.generate .empty patterns).result
  | .str t => (w.imported .empty t).result
  | _ => .error .wrongArguments

/-- Document the validators of given declarations, or else of the files that patterns
select. -/
def generateTool (patterns declarations : Json) : Except Fault Answer :=
  match patterns, declarations with
  | .null, .null => .error .nothingGiven
  | patterns, declarations => do
    let o ← during .generating (w.source patterns declarations)
    return .documents (o.validators.map fun (key, schema) => (key, schema.document))

end Workspace

-- ================================================================= calls

namespace Task

/-- The parameter that takes patterns. -/
def patternsParameter : Parameter where
  name := "glob_patterns"
  hint := some (.choice [.text, .collection .list])
  default := none
  byName := false

/-- The parameters of the tool for a task. -/
def parameters : Task → List Parameter
  | .exporting => [patternsParameter]
  | .generating =>
    [{ patternsParameter with
        hint := some (.choice [.text, .collection .list, .other]), default := some .null },
      { name := "declarations_json", hint := some (.choice [.text, .other])
        default := some .null, byName := false }]

/-- Call the tool for a task. -/
def call (w : Workspace) (task : Task) (a : Arguments) : Except Fault Workspace.Answer := do
  let values ← Parameter.convertCall task.parameters a
  let value (name : Text) := (Json.lookup? values name).getD .null
  match task with
  | .exporting => w.exportTool (value "glob_patterns")
  | .generating => w.generateTool (value "glob_patterns") (value "declarations_json")

end Task

end TypeShape
