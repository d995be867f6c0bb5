/-
Attribute names for the keys of a model.

A key is its own attribute name if it is an identifier that means nothing else:
not a reserved word, not private, and not a name that every model has already. Any
other key gets a name by its position. A name that is taken is lengthened by the
position until it is free.
-/
import TypeShape.Schema.Basic
import TypeShape.Text.Identifier

namespace TypeShape.Attribute

/-- The reserved words. -/
def reservedWords : List Text := List.map String.toList
  ["False", "None", "True", "and", "as", "assert", "async", "await", "break", "class",
    "continue", "def", "del", "elif", "else", "except", "finally", "for", "from", "global",
    "if", "import", "in", "is", "lambda", "nonlocal", "not", "or", "pass", "raise", "return",
    "try", "while", "with", "yield"]

/-- The public attributes that every model has. -/
def modelAttributes : List Text := List.map String.toList
  ["construct", "copy", "dict", "from_orm", "json", "model_computed_fields", "model_config",
    "model_construct", "model_copy", "model_dump", "model_dump_json", "model_extra",
    "model_fields", "model_fields_set", "model_json_schema", "model_parametrized_name",
    "model_post_init", "model_rebuild", "model_validate", "model_validate_json",
    "model_validate_strings", "parse_file", "parse_obj", "parse_raw", "schema",
    "schema_json", "update_forward_refs", "validate", "mro", "register"]

/-- Identifiers are made of identifier characters; the first one is restricted. -/
def isIdentifier : Text → Bool
  | [] => false
  | c :: rest => isIdentifierStart c && rest.all isIdentifierContinue

/-- A key that can be an attribute name as it is. -/
def isPlain (key : Text) : Bool :=
  isIdentifier key && !reservedWords.elem key && key.head? != some '_'
    && !modelAttributes.elem key

/-- A position in a name. -/
def positionText (index : Nat) : Text :=
  Nat.toDigits 10 index

/-- The name that a key asks for. -/
def wanted (key : Text) (index : Nat) : Text :=
  if isPlain key then key else "field_" ++ positionText index

/-- Lengthen a name until it is free; there are more rounds than names that are taken. -/
def free (taken : List Text) (index : Nat) : Nat → Text → Text
  | 0, name => name
  | rounds + 1, name =>
    if taken.elem name then free taken index rounds (name ++ '_' :: positionText index)
    else name

/-- The names of the keys from a position on, with the names that are taken before. -/
def namesFrom (taken : List Text) (index : Nat) : List Text → List Text
  | [] => []
  | key :: rest =>
    let name := free taken index (taken.length + 1) (wanted key index)
    name :: namesFrom (taken ++ [name]) (index + 1) rest

/-- The attribute names of the keys of a model, in their order. -/
def names (keys : List Text) : List Text :=
  namesFrom [] 0 keys

end TypeShape.Attribute
