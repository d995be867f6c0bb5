/-
Type parameters, type arguments, parameter lists and return types: what types share
with functions and methods.
-/
import TypeShape.Source.Goal

namespace TypeShape.Source.Rules

variable (rules : Rules)

-- ======================================================= type parameters

/-- Type arguments, `<A, B>`. -/
def typeArguments : Parser Unit := do
  symbol "<"
  rules.type
  repeatWhile do
    if ← symbol? "," then
      if ← sees ">" then return false
      rules.type
      return true
    else return false
  symbol ">"

/-- Type arguments where a `<` comes next. -/
def typeArguments? : Parser Unit := do
  if ← sees "<" then rules.typeArguments

/-- One type parameter with its constraint and its default. -/
def typeParameter : Parser Unit := do
  let w ← name
  if w == "const" then
    if !(← upcomingName).isEmpty && (← upcomingName) != "extends" then
      let _ ← name
  if (← keyword? "extends") || (← symbol? ":") then rules.type
  if ← symbol? "=" then rules.type

/-- Type parameters, `<A, B extends C = D>`. -/
def typeParameters : Parser Unit := do
  symbol "<"
  rules.typeParameter
  repeatWhile do
    if ← symbol? "," then
      if ← sees ">" then return false
      rules.typeParameter
      return true
    else return false
  symbol ">"

/-- Type parameters where a `<` comes next. -/
def typeParameters? : Parser Unit := do
  if ← sees "<" then rules.typeParameters

-- ============================================================ parameters

/-- Arguments of a call. -/
def arguments : Parser Unit := do
  symbol "("
  repeatWhile do
    if ← sees ")" then return false
    if ← sees "," then
      take 1
      return true
    let _ ← symbol? "..."
    rules.expression
    symbol? ","
  symbol ")"

/-- What is bound: a name, or a list or object pattern, which have the form of list and
object expressions. -/
def pattern : Parser Unit := do
  if (← sees "[") || (← sees "\x7b") then rules (.expression true)
  else
    let _ ← name

/-- The words that may stand before a parameter or a member without being its name. -/
def accessWords : List Text :=
  ["public", "private", "protected"]

/-- Take a word when a name (or a pattern) still follows it on the same line. -/
def modifier? (words : List Text) : Parser Bool := do
  let w ← upcomingName
  if !words.elem w then return false
  let start ← get
  take w.length
  let t ← upcoming
  let named := !t.isEmpty && (nameLength t != 0 || privateLength t != 0
    || (stringLength t).isSome || numberLength t != 0
    || t.head? == some '[' || t.head? == some '{' || t.head? == some '*')
  if named && !(← onNewLine) then return true
  set start
  return false

/-- One parameter: decorators, modifiers, what is bound, and its annotation and default. -/
def parameter : Parser Unit := do
  rules.decorators (do rules.typeArguments?; rules.arguments)
  let _ ← modifier? accessWords
  let _ ← modifier? ["override"]
  let _ ← modifier? ["readonly"]
  let _ ← symbol? "..."
  rules.pattern
  let _ ← symbol? "?"
  if ← symbol? ":" then rules.type
  if (← sees "=") && !(← sees "=>") then
    take 1
    rules.expression

/-- Parameters in parentheses. -/
def parameters : Parser Unit := do
  symbol "("
  commaList ")" rules.parameter

-- ========================================================== return types

/-- A type after an arrow or as the result of a signature: a type, a type predicate
`x is T`, or an assertion `asserts x` or `asserts x is T`. -/
def returnType : Parser Unit := do
  let predicate : Parser Unit := do
    let _ ← name
    if ← onNewLine then fail
    keyword "is"
    rules.type
  let assertion : Parser Unit := do
    keyword "asserts"
    if ← onNewLine then fail
    either predicate (do let _ ← name)
  let w ← upcomingName
  if w.isEmpty then rules.type
  else if w == "asserts" then either assertion (either predicate rules.type)
  else either predicate rules.type

/-- Type parameters, parameters and the result of a function or method. -/
def callSignature : Parser Unit := do
  rules.typeParameters?
  rules.parameters
  if ← symbol? ":" then rules.returnType

end TypeShape.Source.Rules
