/-
Types. Only the extent of a type matters, so operators are read as flat lists: whatever
the precedence of `|` and `&`, the same text belongs to the type.
-/
import TypeShape.Source.Member

namespace TypeShape.Source.Rules

variable (rules : Rules)

-- ============================================================== operands

/-- Words that stand before a type and change it. -/
def prefixWords : List Text :=
  ["keyof", "readonly"]

/-- The text between the backquotes of a template type, substitutions included. -/
def templateWith (substitution : Parser Unit) : Parser Unit := do
  symbol "\x60"
  repeatWhile fun c =>
    -- inside the quotes blanks and comments are text
    match templateSpan 0 c.rest with
    | none => .error { left := c.left, line := c.line }
    | some n =>
      let c := c.advance n
      match c.rest with
      | '$' :: '{' :: _ => (do substitution; symbol "\x7d"; return true) (c.advance 2)
      | _ => .ok (false, c.advance 1)

/-- What `typeof` asks about: a name or an import with members, indexes, calls and type
arguments. -/
def typeQuery : Parser Unit := do
  if ← keyword? "import" then rules.arguments
  else
    let _ ← name
  repeatWhile do
    if (← symbol? "?.") || (← symbol? ".") then
      let t ← upcoming
      if privateLength t != 0 then take (privateLength t)
      else
        let _ ← name
      return true
    else if (← sees "(") && !(← onNewLine) then
      rules.arguments
      return true
    else return false
  rules.typeArguments?

/-- A member of a tuple: spread, named, optional, or just a type. -/
def tupleMember : Parser Unit := do
  let named : Parser Unit := do
    let _ ← name
    let _ ← symbol? "?"
    symbol ":"
    rules.type
  let plain : Parser Unit := do
    rules.type
    let _ ← symbol? "?"
  let _ ← symbol? "..."
  let w ← upcomingName
  if w.isEmpty then plain else either named plain

/-- A function type, or else a type in parentheses, after which suffixes may follow. -/
def functionOrGroup : Parser Bool := do
  let function : Parser Bool := do
    rules.parameters
    symbol "=>"
    rules.returnType
    return false
  let group : Parser Bool := do
    symbol "("
    rules.type
    symbol ")"
    return true
  either function group

/-- A function type with type parameters, or a constructor type after its `new`. -/
def functionType : Parser Unit := do
  rules.typeParameters?
  rules.parameters
  symbol "=>"
  rules.returnType

/-- The members and type arguments after a type name. -/
def typeName : Parser Unit := do
  let _ ← name
  repeatWhile do
    if ← symbol? "." then
      let _ ← name
      return true
    else return false
  either rules.typeArguments (pure ())

/-- The type names of the language, which have neither members nor type arguments. -/
def plainWords : List Text :=
  ["any", "number", "boolean", "string", "symbol", "void", "unknown", "never", "object",
    "this", "true", "false", "null", "undefined", "const"]

/-- A type that opens with a word. Tells whether suffixes may follow. -/
def wordType (w : Text) : Parser Bool := do
  if plainWords.elem w then
    take w.length
    return true
  else if w == "typeof" then
    take w.length
    rules.typeQuery
    return true
  else if w == "unique" then
    take w.length
    keyword "symbol"
    return true
  else if w == "infer" then
    take w.length
    let _ ← name
    if (← upcomingName) == "extends" && !(← onNewLine) then
      take 7
      rules.type
    return false
  else if w == "new" then
    take w.length
    rules.functionType
    return false
  else if w == "abstract" then
    take w.length
    keyword "new"
    rules.functionType
    return false
  else if w == "import" then
    take w.length
    rules.arguments
    repeatWhile do
      if ← symbol? "." then
        let _ ← name
        return true
      else return false
    return false
  else
    rules.typeName
    return true

/-- A type without its suffixes. Tells whether suffixes may follow. -/
def primaryType : Parser Bool := do
  let t ← upcoming
  if nameLength t != 0 then rules.wordType (t.take (nameLength t))
  else match t with
    | '(' :: _ => rules.functionOrGroup
    | '<' :: _ =>
      rules.functionType
      return false
    | '{' :: _ =>
      let _ ← rules.typeMembers
      return true
    | '[' :: _ =>
      take 1
      commaList "]" rules.tupleMember
      return true
    | '*' :: _ =>
      take 1
      return true
    | '\x60' :: _ =>
      templateWith rules.type
      return true
    | '-' :: _ | '+' :: _ =>
      take 1
      number
      return true
    | _ =>
      if (stringLength t).isSome then string else number
      return true

/-- A type with the words and marks before it and the suffixes after it. A suffix stands
on the line of what it follows. -/
def operandType : Parser Unit := do
  repeatWhile do
    let w ← upcomingName
    if prefixWords.elem w then
      take w.length
      return true
    else symbol? "?"
  if ← rules.primaryType then
    repeatWhile do
      if (← sees "[") && !(← onNewLine) then
        take 1
        if !(← sees "]") then rules.type
        symbol "]"
        return true
      else return false

-- ================================================================= types

/-- The operators between types; the end of an exact object type is none. -/
def typeOperator? : Parser Bool := do
  if ← sees "|\x7d" then return false
  if ← symbol? "|" then return true
  symbol? "&"

/-- A type: operands with `|` and `&` before and between them, and a condition. -/
def typeRule : Parser Unit := do
  repeatWhile do
    repeatWhile typeOperator?
    rules.operandType
    typeOperator?
  if (← upcomingName) == "extends" && !(← onNewLine) then
    take 7
    rules.type
    symbol "?"
    rules.type
    symbol ":"
    rules.type

end TypeShape.Source.Rules
