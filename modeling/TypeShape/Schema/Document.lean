/-
JSON Schema documents.

The outermost model of a schema is written in place. Every other model stands once
under `$defs` and is referred to by name. Models are told apart by where they come
from: the earlier declaration through which they were reached, and the keys from there.
When models that ask for one name differ, each of them gets a longer name, in the end one
with its number.
-/
import TypeShape.Schema.Basic
import TypeShape.Text.Case

namespace TypeShape.Schema

-- ============================================================== models

/-- Where a model comes from: the last reference on the way to it, if there is one, and
the keys of the fields from there. -/
structure Origin where
  anchor : Option Text
  keys : List Text
deriving DecidableEq

/-- The place of a field of a model. -/
def Origin.field (o : Origin) (key : Text) : Origin :=
  { o with keys := o.keys ++ [key] }

/-- The place that a reference leads to. -/
def Origin.reference (name : Text) : Origin :=
  { anchor := some name, keys := [] }

/-- The outermost place. -/
def Origin.root : Origin :=
  { anchor := none, keys := [] }

/-- A model of a schema and where it comes from. -/
structure Definition where
  origin : Origin
  name : Text
  fields : List (Field Schema)

mutual

/-- The models of a schema, inner before outer and fields in order. -/
def definitionsAt (origin : Origin) : Schema → List Definition
  | .list item _ => definitionsAt origin item
  | .model name fields => definitionsOfFields origin fields ++ [⟨origin, name, fields⟩]
  | .reference name s => definitionsAt (.reference name) s
  | _ => []
termination_by structural s => s

/-- The models of the fields of a model. -/
def definitionsOfFields (origin : Origin) : List (Field Schema) → List Definition
  | [] => []
  | ⟨key, _, schema⟩ :: rest =>
    definitionsAt (origin.field key) schema ++ definitionsOfFields origin rest
termination_by structural fields => fields

end

/-- Each model once, at its first place. -/
def distinct (definitions : List Definition) : List Definition :=
  definitions.foldl
    (fun read d => if read.any (·.origin == d.origin) then read else read ++ [d]) []

-- =============================================================== titles

/-- The title of a property: its key in title case with blanks for underscores. -/
def titleOfKey (key : Text) : Text :=
  Text.trim ((Text.title key).map fun c => if c = '_' then ' ' else c)

-- ============================================================= documents

/-- How models are referred to. -/
abbrev Naming := Origin → Text

/-- An entry that is there only under a condition. -/
def entryIf (condition : Bool) (key : Text) (value : Json) : List (Text × Json) :=
  if condition then [(key, value)] else []

/-- An entry for a limit, if there is one. -/
def limitEntry (key : Text) (limit : Option Json) : List (Text × Json) :=
  match limit with
  | some value => [(key, value)]
  | none => []

/-- The entries for the limits of a length. -/
def lengthEntries (least most : Text) (l : LengthLimits) : List (Text × Json) :=
  limitEntry least (l.least.map .int) ++ limitEntry most (l.most.map .int)

/-- The entries for the limits of a number. -/
def numberEntries (l : NumberLimits) : List (Text × Json) :=
  limitEntry "minimum" (l.least.map .float) ++ limitEntry "maximum" (l.most.map .float)

/-- The entry that names the type. -/
def typeEntry (name : String) : Text × Json :=
  ("type", .str name)

/-- The document of a schema as a list of entries; models are referred to by name. -/
def entriesAt (naming : Naming) (origin : Origin) : Schema → List (Text × Json)
  | .any => []
  | .string l => typeEntry "string" :: lengthEntries "minLength" "maxLength" l
  | .number l => typeEntry "number" :: numberEntries l
  | .boolean => [typeEntry "boolean"]
  | .object => [typeEntry "object", ("additionalProperties", .bool true)]
  | .date => [typeEntry "string", ("format", .str "date-time")]
  | .list item l =>
    typeEntry "array" :: ("items", .obj (entriesAt naming origin item)) ::
      lengthEntries "minItems" "maxItems" l
  | .model _ _ => [("$ref", .str ("#/$defs/" ++ naming origin))]
  | .reference name s => entriesAt naming (.reference name) s

/-- Whether a schema is a model, perhaps behind references. -/
def isModel (s : Schema) : Bool :=
  match s.target with
  | .model _ _ => true
  | _ => false

/-- The document of a field: the schema with a title, save for models, and with null as
the value of a field that is left out. -/
def fieldDocument (naming : Naming) (origin : Origin) (f : Field Schema) : Json :=
  .obj (entriesAt naming (origin.field f.key) f.schema ++
    entryIf (!f.schema.isModel) "title" (.str (titleOfKey f.key)) ++
    entryIf (!f.required) "default" .null)

/-- The document of a model. -/
def modelEntries (naming : Naming) (origin : Origin) (name : Text)
    (fields : List (Field Schema)) : List (Text × Json) :=
  let required := (fields.filter (·.required)).map fun f => Json.str f.key
  [typeEntry "object", ("title", .str name), ("additionalProperties", .bool false),
    ("properties", .obj (fields.map fun f => (f.key, fieldDocument naming origin f)))] ++
    entryIf (!required.isEmpty) "required" (.arr required)

/-- The document of a definition. -/
def Definition.document (naming : Naming) (d : Definition) : Json :=
  .obj (modelEntries naming d.origin d.name d.fields)

-- ================================================================ names

/-- A model name with an underscore for each character that a reference cannot hold. -/
def referenceName (name : Text) : Text :=
  name.map fun c =>
    if c.isAlphanum || c == '.' || c == '-' || c == '_' then c else '_'

/-- What stands before the name of a model whose short name is not its own. -/
def qualifier : Text :=
  "tsschema__validator_server__tools__schema_builder__"

/-- The number of a definition among those of its reference name, from one on. -/
def numberOf (definitions : List Definition) (d : Definition) : Nat :=
  let same := definitions.filter fun e => referenceName e.name == referenceName d.name
  (same.takeWhile fun e => e.origin != d.origin).length + 1

/-- The names that a definition may get, the shorter ones first. -/
def choices (definitions : List Definition) (d : Definition) : List Text :=
  let short := referenceName d.name
  let number := Nat.toDigits 10 (numberOf definitions d)
  let input : Text := "-Input"
  [short, short ++ input, qualifier ++ short, qualifier ++ short ++ input,
    qualifier ++ short ++ "__" ++ number, qualifier ++ short ++ input ++ "__" ++ number]

/-- A name for one definition only: no name to choose from has a colon. -/
def ownName (definitions : List Definition) (d : Definition) : Text :=
  qualifier ++ referenceName d.name ++ ':' :: Nat.toDigits 10 (numberOf definitions d)

/-- Whether all definitions that may get a name have the document of this one. -/
def isFree (definitions : List Definition) (naming : Naming) (d : Definition) (name : Text) :
    Bool :=
  definitions.all fun e =>
    !(choices definitions e).elem name || Json.alike (e.document naming) (d.document naming)

/-- The first name that is free. -/
def nameAmong (definitions : List Definition) (naming : Naming) (d : Definition) : Text :=
  ((choices definitions d).find? (isFree definitions naming d)).getD (ownName definitions d)

/-- A naming by the definitions' places. -/
def namingBy (definitions : List Definition) (nameOf : Definition → Text) : Naming :=
  fun origin => ((definitions.find? (·.origin == origin)).map nameOf).getD []

/-- The names of all definitions. Documents are compared first with a name of its own for
each definition inside, then with the names that this comparison gave. -/
def finalNaming (definitions : List Definition) : Naming :=
  let own := namingBy definitions (ownName definitions)
  let first := namingBy definitions (nameAmong definitions own)
  namingBy definitions (nameAmong definitions first)

/-- The outermost model behind references, and its place. -/
def outermost (origin : Origin) : Schema → Option Definition
  | .model name fields => some ⟨origin, name, fields⟩
  | .reference name s => outermost (.reference name) s
  | _ => none

/-- The models that a document does not write in place. -/
def innerModels (s : Schema) : List Definition :=
  (distinct (definitionsAt .root s)).filter fun d =>
    !(outermost .root s).any fun r => r.origin == d.origin

/-- The documents of definitions by their names. -/
def documentsBy (definitions : List Definition) (naming : Naming) : List (Text × Json) :=
  definitions.foldl (fun read d => Json.insert (naming d.origin) (d.document naming) read) []

/-- The JSON Schema document of a schema. -/
def document (s : Schema) : Json :=
  let naming := finalNaming s.innerModels
  let entries := match outermost .root s with
    | some r => modelEntries naming r.origin r.name r.fields
    | none => entriesAt naming .root s
  let defs := documentsBy s.innerModels naming
  .obj (entries ++ entryIf (!defs.isEmpty) "$defs" (.obj defs))

end TypeShape.Schema
