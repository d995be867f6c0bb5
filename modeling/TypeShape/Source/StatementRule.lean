/-
Statements. Interfaces, classes and abstract classes that are declared are collected
here; what is declared inside a collected one is left out.
-/
import TypeShape.Source.ExpressionRule

namespace TypeShape.Source.Rules

variable (rules : Rules)

-- ========================================================== declarations

/-- Collect the declaration that a parser reads, in place of all that is declared
inside it. -/
def collect (kind : Json) (p : Parser (Text × Nat × List Property)) : Parser Unit := do
  let before := (← get).found
  let (name, line, properties) ← p
  let declaration : Declaration := { name, kind, properties, line := .int line }
  modify fun c => { c with found := declaration :: before }

/-- The name of a declaration and its line. -/
def declaredName : Parser (Text × Nat) := do
  let w ← name
  return (w, (← get).line)

/-- What an interface extends. -/
def extendedTypes : Parser Unit := do
  if ← keyword? "extends" then commaItems rules.typeName

/-- An interface after its word. -/
def interfaceRule : Parser Unit :=
  collect Declaration.interfaceKind do
    let (name, line) ← declaredName
    rules.typeParameters?
    rules.extendedTypes
    return (name, line, ← rules.typeMembers)

/-- The operand of a heritage clause: a name or group with members and calls. -/
def heritageOperand : Parser Unit := fun c =>
  (do
    rules.newOperand (rules.primaryExpression (c.left + 1))
    repeatWhile do
      if ← sees "(" then
        rules.arguments
        return true
      else if ← symbol? "." then
        let _ ← name
        return true
      else return false) c

/-- A class after its decorators and its word. -/
def classRule : Parser Unit :=
  collect Declaration.classKind do
    let (name, line) ← declaredName
    rules.typeParameters?
    rules.heritage rules.heritageOperand
    return (name, line, ← rules.classMembers)

/-- A function after its word; without a body it is a signature. -/
def functionRule : Parser Unit := do
  let _ ← symbol? "*"
  let _ ← name
  rules.callSignature
  if ← sees "\x7b" then rules.block else semicolon

/-- A type alias after its word. -/
def aliasRule : Parser Unit := do
  let _ ← name
  rules.typeParameters?
  symbol "="
  rules.type
  semicolon

/-- An enumeration after its word. -/
def enumRule : Parser Unit := do
  let _ ← name
  symbol "\x7b"
  commaList "\x7d" do
    let _ ← rules.memberName
    if ← symbol? "=" then rules.expression

/-- A namespace or module after its word: a dotted name or a string, and a body. -/
def namespaceRule : Parser Unit := do
  if (stringLength (← upcoming)).isSome then string
  else
    let _ ← name
    repeatWhile do
      if ← symbol? "." then
        let _ ← name
        return true
      else return false
  if ← sees "\x7b" then rules.block
  else semicolon

/-- One variable with its annotation and its value. -/
def variableRule (allowIn : Bool) : Parser Unit := do
  rules.pattern
  let _ ← symbol? "!"
  if ← symbol? ":" then rules.type
  if (← sees "=") && !(← sees "=>") && !(← sees "==") then
    take 1
    rules (.expression allowIn)

/-- Variables after their word. -/
def variablesRule : Parser Unit := do
  commaItems (rules.variableRule true)
  semicolon

-- ==================================================== imports and exports

/-- Names in braces with other names for them. -/
def exportClause : Parser Unit := do
  symbol "\x7b"
  let externalName : Parser Unit := do
    if (stringLength (← upcoming)).isSome then string
    else
      let _ ← name
  commaList "\x7d" do
    repeatWhile do
      externalName
      let t ← upcoming
      return nameLength t != 0 || (stringLength t).isSome

/-- The source of an import or export, and its attributes. -/
def fromRule : Parser Unit := do
  keyword "from"
  string
  if (← keyword? "with") || (← keyword? "assert") then
    symbol "\x7b"
    commaList "\x7d" rules.objectEntry

/-- The rest of `import x = require('y')` or `import x = a.b` after the equals sign. -/
def importAlias : Parser Unit := do
  let w ← name
  if w == "require" && (← sees "(") then
    symbol "("
    string
    symbol ")"
  else
    repeatWhile do
      if ← symbol? "." then
        let _ ← name
        return true
      else return false
  semicolon

/-- An import after its word. -/
def importRule : Parser Unit := do
  if (stringLength (← upcoming)).isSome then
    string
    if (← keyword? "with") || (← keyword? "assert") then
      symbol "\x7b"
      commaList "\x7d" rules.objectEntry
    semicolon
  else
    let start ← get
    if (← keyword? "type") || (← keyword? "typeof") then
      let w ← upcomingName
      if (w.isEmpty || w == "from") && !(← sees "\x7b") && !(← sees "*") then set start
    let names : Parser Unit := do
      if ← sees "\x7b" then exportClause
      else if ← symbol? "*" then
        keyword "as"
        let _ ← name
      else
        let _ ← name
    names
    if ← symbol? "=" then importAlias
    else
      if ← symbol? "," then names
      rules.fromRule
      semicolon

/-- The exports of one statement after its word; decorators may stand before it. -/
def exportRule (declaration : Parser Unit) : Parser Unit := do
  if ← symbol? "*" then
    if ← keyword? "as" then
      if (stringLength (← upcoming)).isSome then string
      else
        let _ ← name
    rules.fromRule
    semicolon
  else if ← sees "\x7b" then
    exportClause
    if (← upcomingName) == "from" then rules.fromRule
    semicolon
  else if (← sees "=") && !(← sees "==") then
    take 1
    rules.expression
    semicolon
  else
    let w ← upcomingName
    if w == "default" then
      take w.length
      let value : Parser Unit := do
        rules.expression
        semicolon
      either declaration value
    else if w == "as" then
      take w.length
      keyword "namespace"
      let _ ← name
      semicolon
    else if w == "import" then
      take w.length
      let _ ← name
      symbol "="
      importAlias
    else
      let exported : Parser Unit := do
        keyword "type"
        if ← symbol? "*" then
          if ← keyword? "as" then
            let _ ← name
          rules.fromRule
        else
          exportClause
          if (← upcomingName) == "from" then rules.fromRule
        semicolon
      if w == "type" then either exported declaration else declaration

-- ====================================================== ambient and others

/-- The text after the next word. -/
def afterWord : Parser Text := fun c =>
  let c' := c.skip
  .ok ((c'.advance (nameLength c'.rest)).skip.rest, c)

/-- Whether the next word opens a declaration: some of these words are names unless the
right lexeme follows them. -/
def opensDeclaration (w next : Text) : Bool :=
  let named := nameLength next != 0
  let pattern := named || next.head? == some '[' || next.head? == some '{'
  if w == "interface" || w == "class" || w == "enum" || w == "function" then true
  else if w == "type" then named
  else if w == "namespace" || w == "module" then named || (stringLength next).isSome
  else if w == "abstract" then next.take (nameLength next) == "class"
  else if w == "async" then next.take (nameLength next) == "function"
  else if w == "const" || w == "var" then true
  else if w == "let" then pattern
  else false

/-- A declaration. -/
def declarationRule : Parser Unit := do
  let w ← upcomingName
  let next ← afterWord
  if !opensDeclaration w next then fail
  else
    take w.length
    if w == "interface" then rules.interfaceRule
    else if w == "class" then rules.classRule
    else if w == "abstract" then
      keyword "class"
      rules.classRule
    else if w == "function" then rules.functionRule
    else if w == "async" then
      keyword "function"
      rules.functionRule
    else if w == "type" then rules.aliasRule
    else if w == "enum" then rules.enumRule
    else if w == "namespace" || w == "module" then rules.namespaceRule
    else if w == "const" && (← upcomingName) == "enum" then
      keyword "enum"
      rules.enumRule
    else rules.variablesRule

/-- A declaration after the word `declare`. -/
def ambientRule : Parser Unit := do
  let w ← upcomingName
  if w == "global" then
    take w.length
    rules.block
  else if w == "import" then
    take w.length
    rules.importRule
  else if w == "module" then
    let property : Parser Unit := do
      keyword "module"
      symbol "."
      let _ ← name
      symbol ":"
      rules.type
      semicolon
    either property rules.declarationRule
  else rules.declarationRule

-- =============================================================== control

/-- A condition in parentheses. -/
def condition : Parser Unit := do
  symbol "("
  rules.sequence true
  symbol ")"

/-- The head of a `for` loop and its body. -/
def forRule : Parser Unit := do
  let _ ← keyword? "await"
  symbol "("
  let w ← upcomingName
  let next ← afterWord
  let eachOf : Parser Unit := do
    if w == "var" || w == "const" || (w == "let" && opensDeclaration w next) then
      take w.length
      rules.pattern
      if ← symbol? ":" then rules.type
    else
      let _ ← rules.postfixExpression
    if ← keyword? "of" then rules.expression
    else
      keyword "in"
      rules.sequence true
    symbol ")"
  let counted : Parser Unit := do
    if w == "var" || w == "const" || (w == "let" && opensDeclaration w next) then
      take w.length
      commaItems (rules.variableRule false)
    else if !(← sees ";") then rules.sequence false
    symbol ";"
    if !(← sees ";") then rules.sequence true
    symbol ";"
    if !(← sees ")") then rules.sequence true
    symbol ")"
  either eachOf counted
  rules.statement

/-- The cases of a `switch` after its value. -/
def switchRule : Parser Unit := do
  rules.condition
  symbol "\x7b"
  repeatWhile do
    if ← sees "\x7d" then return false
    if ← keyword? "case" then rules.sequence true else keyword "default"
    symbol ":"
    repeatWhile do
      let w ← upcomingName
      if w == "case" || w == "default" || (← sees "\x7d") then return false
      rules.statement
      return true
    return true
  symbol "\x7d"

/-- What follows the block of a `try`. -/
def tryRule : Parser Unit := do
  rules.block
  let caught ← keyword? "catch"
  if caught then
    if ← symbol? "(" then
      rules.pattern
      if ← symbol? ":" then rules.type
      symbol ")"
    rules.block
  if ← keyword? "finally" then rules.block
  else if !caught then fail

/-- An expression that stands for itself. -/
def expressionStatement : Parser Unit := do
  rules.sequence true
  semicolon

/-- A statement that opens with a word. -/
def wordStatement (w : Text) : Parser Unit := do
  let next ← afterWord
  let control (p : Parser Unit) : Parser Unit := do
    take w.length
    p
  if w == "export" then control (rules.exportRule do
    if ← keyword? "declare" then rules.ambientRule
    else
      rules.decorators (do rules.typeArguments?; rules.arguments)
      rules.declarationRule)
  else if w == "import" && next.head? != some '(' && next.head? != some '.' then
    control rules.importRule
  else if opensDeclaration w next then rules.declarationRule
  else if w == "declare" && nameLength next != 0 then control rules.ambientRule
  else if w == "if" then control do
    rules.condition
    rules.statement
    if ← keyword? "else" then rules.statement
  else if w == "for" then control rules.forRule
  else if w == "while" then control do
    rules.condition
    rules.statement
  else if w == "do" then control do
    rules.statement
    keyword "while"
    rules.condition
    let _ ← symbol? ";"
  else if w == "switch" then control rules.switchRule
  else if w == "try" then control rules.tryRule
  else if w == "with" then control do
    rules.condition
    rules.statement
  else if w == "return" || w == "throw" then control do
    if !(← endsHere true) && !(← sees ";") then rules.sequence true
    semicolon
  else if w == "break" || w == "continue" then control do
    if !(← endsHere true) && !(← sees ";") then
      let _ ← name
    semicolon
  else if w == "debugger" then control semicolon
  else if next.head? == some ':' then control do
    symbol ":"
    rules.statement
  else rules.expressionStatement

/-- A statement. A closing bracket that closes nothing is itself the fault. -/
def statementRule : Parser Unit := do
  let t ← upcoming
  if nameLength t != 0 then rules.wordStatement (t.take (nameLength t))
  else match t with
    | '{' :: _ => rules.block
    | ';' :: _ => take 1
    | '@' :: _ =>
      rules.decorators (do rules.typeArguments?; rules.arguments)
      if ← keyword? "export" then
        rules.exportRule do
          rules.decorators (do rules.typeArguments?; rules.arguments)
          rules.declarationRule
      else
        let w ← upcomingName
        if w == "class" || w == "abstract" then rules.declarationRule else fail
    | c :: _ => if isCloser c then failHere else rules.expressionStatement
    | [] => fail

end TypeShape.Source.Rules
