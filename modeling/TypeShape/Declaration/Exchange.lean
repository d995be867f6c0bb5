/-
Parsed files as JSON text, so that parsing and resolution can happen in different
places. What is written can be read back; what is read back is only known to be a list
and gets its shape when it is used.
-/
import TypeShape.Declaration.Loose
import TypeShape.Json.Writer

namespace TypeShape

/-- A property as JSON. -/
def Property.toJson (p : Property) : Json :=
  .obj [("name", .str p.name), ("type", .str p.type), ("is_optional", .bool p.isOptional)]

/-- A declaration as JSON. -/
def Declaration.toJson (d : Declaration) : Json :=
  .obj [("name", .str d.name), ("kind", d.kind),
    ("properties", .arr (d.properties.map Property.toJson)), ("line", d.line)]

/-- A parsed file as JSON. -/
def ParsedFile.toJson (f : ParsedFile) : Json :=
  .obj [("file_path", .str f.path), ("declarations", .arr (f.declarations.map Declaration.toJson))]

namespace Exchange

/-- The JSON text of parsed files, if their lines can be written. -/
def dump (files : List ParsedFile) : Except LongNumber Text :=
  Json.write (.arr (files.map ParsedFile.toJson))

/-- The files in a JSON text, as loose data. A number of too many digits is no flaw of the
text, and is not reported as one. -/
def load (t : Text) : Except Fault (List Json) :=
  match Json.read t with
  | .ok (.arr files) => .ok files
  | .ok other => .error (.malformed (.notFiles other))
  | .error (.flaw fault) => .error (.malformed (.notJson fault))
  | .error (.longNumber number) => .error (.longNumber number)
  | .error .unpaired => .error .unpaired

end Exchange

end TypeShape
