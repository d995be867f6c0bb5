/-
The members of object types, interfaces and classes.

Only properties are reported. A property is optional when `?` follows its name; a
class field is dropped when it is static. The type of a property is its source text,
and a comment between the colon and the type is taken for the type.
-/
import TypeShape.Source.Signature

namespace TypeShape.Source.Rules

variable (rules : Rules)

-- ================================================================= names

/-- A member name: a name, a private name, a string, a number or an expression in
brackets. A quoted name is reported without its quotes, any other as it is written. -/
def memberName : Parser Text := do
  let t ← upcoming
  if nameLength t != 0 then name
  else if privateLength t != 0 then textOf (take (privateLength t))
  else if (stringLength t).isSome then
    let written ← textOf string
    return written.drop 1 |>.dropLast
  else if numberLength t != 0 then textOf number
  else if t.head? == some '[' then
    textOf do
      symbol "["
      rules.expression
      symbol "]"
  else fail

/-- Whether a call signature comes next, which makes a member a method. -/
def seesCall : Parser Bool := do
  return (← sees "(") || (← sees "<")

/-- The text after a colon up to the first character that is not a blank. -/
def leadingComment : Parser (Option Text) := fun c =>
  .ok (comment? (c.rest.dropWhile isSpace), c)

/-- The annotation of a property, `any` without one. -/
def annotation : Parser Text := do
  if ← symbol? ":" then
    let comment ← leadingComment
    let written ← textOf rules.type
    return comment.getD written
  else return "any"

-- ====================================================== index signatures

/-- The bracket of an index signature, `[key: T]` or `[K in T as U]`. -/
def indexBracket : Parser Unit := do
  symbol "["
  let _ ← name
  if ← symbol? ":" then rules.type
  else
    keyword "in"
    rules.type
    if ← keyword? "as" then rules.type
  symbol "]"

/-- An index signature without its modifiers. -/
def indexSignature : Parser Unit := do
  rules.indexBracket
  if (← symbol? "-?:") || (← symbol? "+?:") || (← symbol? "?:") || (← symbol? ":") then
    rules.type
  else fail

/-- An index signature, where the bracket that comes next does not hold the computed
name of a property. -/
def indexSignature? : Parser Bool := do
  let signature : Parser Bool := do
    rules.indexSignature
    return true
  if ← sees "[" then either signature (pure false) else return false

-- ========================================================= object types

/-- A member of an object type: its property, if it is one. -/
def typeMember : Parser (List Property) := do
  if ← seesCall then
    rules.callSignature
    return []
  if (← sees "+") || (← sees "-") then
    take 1
    keyword "readonly"
    rules.indexSignature
    return []
  let _ ← modifier? ["abstract"]
  if (← upcomingName) == "new" then
    let start ← get
    take 3
    if ← seesCall then
      rules.callSignature
      return []
    set start
  let _ ← modifier? accessWords
  let _ ← modifier? ["static"]
  let _ ← modifier? ["override"]
  let _ ← modifier? ["readonly"]
  if ← rules.indexSignature? then return []
  let _ ← modifier? ["async"]
  if ← symbol? "*" then pure ()
  else
    let _ ← modifier? ["get", "set"]
  let key ← rules.memberName
  let isOptional ← symbol? "?"
  if ← seesCall then
    rules.callSignature
    return []
  let type ← rules.annotation
  return [{ name := key, type, isOptional }]

/-- Whether the brace that closes an object type comes next. -/
def seesClose : Parser Bool := do
  return (← sees "\x7d") || (← sees "|\x7d")

/-- The brace that closes an object type. -/
def close : Parser Unit := do
  let _ ← symbol? "|"
  symbol "\x7d"

/-- One round over the members of an object type. They are separated by commas, semicolons
or line breaks, and a separator may stand after the last one. -/
def memberRound (read : List Property) : Parser (List Property × Bool) := do
  let read := read ++ (← rules.typeMember)
  if (← symbol? ",") || (← symbol? ";") then return (read, !(← seesClose))
  if ← seesClose then return (read, false)
  if ← endsHere false then return (read, true)
  fail

/-- The members of an object type between its braces. A separator may stand before the
first one, but not two in a row. -/
def typeMembers : Parser (List Property) := do
  symbol "\x7b"
  let exact ← sees "|"
  if exact then take 1
  if ← seesClose then
    close
    return []
  if !(← symbol? ",") then
    let _ ← symbol? ";"
  let properties ← iterate [] rules.memberRound
  close
  return properties

-- ============================================================== classes

/-- The modifiers of a class member in the order they are written: whether one of them
is `static`. -/
def classModifiers : Parser Bool := do
  let _ ← modifier? ["declare"]
  let _ ← modifier? accessWords
  let _ ← modifier? ["declare"]
  let isStatic ← modifier? ["static"]
  let _ ← modifier? ["abstract"]
  let _ ← modifier? ["override"]
  let _ ← modifier? ["readonly"]
  let _ ← modifier? ["abstract"]
  let _ ← modifier? ["accessor"]
  return isStatic

/-- What follows the name of a class member: the signature and the body of a method, or else
the annotation and the value of a field, which is a property of the instances unless it is
static. -/
def classMemberAfter (isStatic : Bool) (key : Text) : Parser (List Property) := do
  let isOptional ← symbol? "?"
  if !isOptional then
    let _ ← symbol? "!"
  if ← seesCall then
    rules.callSignature
    if ← sees "\x7b" then
      rules.block
      return []
    if (← symbol? ";") || (← symbol? ",") || (← endsHere false) then return []
    fail
  let type ← rules.annotation
  if ← symbol? "=" then rules.expression
  if (← symbol? ";") || (← symbol? ",") || (← endsHere true) then
    return if isStatic then [] else [{ name := key, type, isOptional }]
  fail

/-- A member of a class: its property, if it is one that instances have. -/
def classMember : Parser (List Property) := do
  if ← symbol? ";" then return []
  rules.decorators (do rules.typeArguments?; rules.arguments)
  if (← upcomingName) == "static" then
    let start ← get
    take 6
    if ← sees "\x7b" then
      rules.block
      return []
    set start
  let isStatic ← classModifiers
  if ← rules.indexSignature? then
    if (← symbol? ";") || (← symbol? ",") || (← endsHere false) then return []
    fail
  let _ ← modifier? ["async"]
  if ← symbol? "*" then pure ()
  else
    let _ ← modifier? ["get", "set"]
    let _ ← symbol? "*"
  let key ← rules.memberName
  rules.classMemberAfter isStatic key

/-- One round over the members of a class. -/
def fieldRound (read : List Property) : Parser (List Property × Bool) := do
  if ← sees "\x7d" then return (read, false)
  return (read ++ (← rules.classMember), true)

/-- The members of a class between its braces. -/
def classMembers : Parser (List Property) := do
  symbol "\x7b"
  let properties ← iterate [] rules.fieldRound
  symbol "\x7d"
  return properties

end TypeShape.Source.Rules
