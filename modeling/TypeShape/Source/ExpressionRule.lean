/-
Expressions. Binary operators are read as flat lists, since only the extent of an
expression and the classes inside it matter. What is kept apart is what can stand on
the left of an assignment.
-/
import TypeShape.Source.Markup
import TypeShape.Source.Operator

namespace TypeShape.Source.Rules

variable (rules : Rules)

-- ============================================================= functions

/-- The body of an arrow function: statements in braces or an expression. -/
def arrowBody (allowIn : Bool) : Parser Unit := do
  symbol "=>"
  if ← sees "\x7b" then rules.block else rules (.expression allowIn)

/-- An arrow function with parentheses. -/
def arrowFunction (allowIn : Bool) : Parser Unit := do
  rules.callSignature
  rules.arrowBody allowIn

/-- A function after the word `function`. -/
def functionExpression : Parser Unit := do
  let _ ← symbol? "*"
  if !(← sees "(") && !(← sees "<") then
    let _ ← name
  rules.callSignature
  rules.block

-- =============================================================== classes

/-- The heritage of a class: what it extends and what it implements. -/
def heritage (operand : Parser Unit) : Parser Unit := do
  if ← keyword? "extends" then
    commaItems do
      operand
      rules.typeArguments?
  if ← keyword? "implements" then commaItems rules.type

/-- A class expression after the word `class`. -/
def classExpression (operand : Parser Unit) : Parser Unit := do
  let w ← upcomingName
  if !w.isEmpty && w != "extends" && w != "implements" then take w.length
  rules.typeParameters?
  rules.heritage operand
  let _ ← rules.classMembers

-- ============================================================== literals

/-- An entry of an object expression or pattern. -/
def objectEntry : Parser Unit := do
  if ← symbol? "..." then rules.expression
  else
    let _ ← modifier? ["async"]
    if ← symbol? "*" then pure ()
    else
      let _ ← modifier? ["get", "set"]
      let _ ← symbol? "*"
    let shorthand := nameLength (← upcoming) != 0
    let _ ← rules.memberName
    if ← seesCall then
      rules.callSignature
      rules.block
    else if ← symbol? ":" then rules.expression
    else if shorthand then
      if assignmentLength (← upcoming) == 1 then
        take 1
        rules.expression
    else fail

/-- Entries or items with commas between them, where some may be missing. -/
def sparseList (close : Text) (item : Parser Unit) : Parser Unit := do
  repeatWhile do
    if ← sees close then return false
    if ← symbol? "," then return true
    item
    symbol? ","
  symbol close

/-- An expression in parentheses; a type may be annotated. -/
def parenthesized : Parser Unit := do
  symbol "("
  rules.sequence true
  if ← symbol? ":" then rules.type
  symbol ")"

-- ============================================================== operands

/-- Whether an expression can be assigned to. -/
abbrev Assignable := Bool

/-- The operand of `new`, without calls. -/
def newOperand (primary : Parser Assignable) : Parser Unit := do
  let _ ← primary
  repeatWhile do
    if (← symbol? "?.") || (← symbol? ".") then
      let t ← upcoming
      if privateLength t != 0 then take (privateLength t)
      else
        let _ ← name
      return true
    else if ← sees "[" then
      take 1
      rules.sequence true
      symbol "]"
      return true
    else return false

/-- A `new` expression after its word. -/
def newExpression (primary : Parser Assignable) : Parser Unit := do
  if ← symbol? "." then
    let _ ← name
  else
    rules.newOperand primary
    if ← sees "<" then either rules.typeArguments (pure ())
    if ← sees "(" then rules.arguments

/-- An expression that opens with a word. -/
def wordExpression (operand : Parser Unit) (primary : Parser Assignable) (w : Text) :
    Parser Assignable := do
  take w.length
  if w == "function" then
    rules.functionExpression
    return false
  else if w == "class" then
    rules.classExpression operand
    return false
  else if w == "new" then
    rules.newExpression primary
    return false
  else if w == "import" then
    if ← symbol? "." then
      let _ ← name
    else rules.arguments
    return false
  else if w == "async" && (← upcomingName) == "function" && !(← onNewLine) then
    take 8
    rules.functionExpression
    return false
  else return true

/-- An operand without suffixes. Nested operands are as deep as the chain of words
`new` before them, or the heritage of a class, so a bound on the rounds is given. -/
def primaryExpression : Nat → Parser Assignable
  | 0 => fail
  | rounds + 1 => do
    let t ← upcoming
    if nameLength t != 0 then
      let primary := primaryExpression rounds
      let operand := rules.newOperand primary
      let call : Parser Unit := do
        operand
        repeatWhile do
          if ← sees "(" then
            rules.arguments
            return true
          else if ← symbol? "." then
            let _ ← name
            return true
          else return false
      rules.wordExpression call primary (t.take (nameLength t))
    else if privateLength t != 0 then
      take (privateLength t)
      return false
    else if numberLength t != 0 then
      number
      return false
    else match t with
      | '(' :: _ =>
        rules.parenthesized
        return true
      | '[' :: _ =>
        take 1
        sparseList "]" do
          let _ ← symbol? "..."
          rules.expression
        return true
      | '{' :: _ =>
        take 1
        sparseList "\x7d" rules.objectEntry
        return true
      | '"' :: _ | '\'' :: _ =>
        string
        return false
      | '\x60' :: _ =>
        templateWith (rules.sequence true)
        return false
      | '/' :: _ =>
        match patternLength t with
        | some n => take n
        | none => fail
        return false
      | '<' :: _ =>
        if (← get).markup then rules .element else fail
        return false
      | '@' :: _ =>
        rules.decorators (do rules.typeArguments?; rules.arguments)
        keyword "class"
        rules.classExpression (do let _ ← primaryExpression rounds)
        return false
      | _ => fail

/-- Type arguments before a call, a template or the end of an operand. -/
def callTypeArguments? : Parser Bool := do
  let instantiation : Parser Bool := do
    rules.typeArguments
    let t ← upcoming
    if t.head? == some '(' || t.head? == some '\x60' || !startsOperand t || (← onNewLine) then
      return true
    fail
  either instantiation (pure false)

/-- A suffix of an operand: whether there is one, and whether the result can be
assigned to. -/
def suffix : Parser (Option Assignable) := do
  if ← symbol? "?." then
    let t ← upcoming
    if nameLength t != 0 then
      let _ ← name
    else if privateLength t != 0 then take (privateLength t)
    else if t.head? == some '[' then
      take 1
      rules.sequence true
      symbol "]"
    else
      rules.typeArguments?
      rules.arguments
    return some true
  if (← sees ".") && !(← sees "...") then
    take 1
    let t ← upcoming
    if privateLength t != 0 then take (privateLength t)
    else
      let _ ← name
    return some true
  if ← sees "[" then
    take 1
    rules.sequence true
    symbol "]"
    return some true
  if ← sees "(" then
    rules.arguments
    return some false
  if ← sees "\x60" then
    templateWith (rules.sequence true)
    return some false
  if (← sees "!") && !(← sees "!=") && !(← onNewLine) then
    take 1
    return some true
  if ← sees "<" then
    if ← rules.callTypeArguments? then return some false
  return none

/-- An operand with its suffixes. -/
def postfixExpression : Parser Assignable := fun c =>
  (do
    let first ← rules.primaryExpression (c.left + 1)
    let assignable ← iterate first fun assignable => do
      match ← rules.suffix with
      | some a => return (a, true)
      | none => return (assignable, false)
    if ((← sees "++") || (← sees "--")) && !(← onNewLine) then
      take 2
      return false
    return assignable) c

/-- An operand with the operators before it. -/
def unaryExpression : Parser Assignable := do
  let plain ← iterate true fun plain => do
    let t ← upcoming
    let w := t.take (nameLength t)
    if unaryLength t != 0 then
      take (unaryLength t)
      return (false, true)
    else if w == "await" && startsOperand ((t.drop 5).dropWhile isSpace) then
      take 5
      return (false, true)
    else if t.head? == some '<' && !(← get).markup then
      take 1
      rules.type
      symbol ">"
      return (false, true)
    else return (plain, false)
  let assignable ← rules.postfixExpression
  return plain && assignable

-- =========================================================== expressions

/-- Operands with binary operators between them, and `as` and `satisfies` with their
types. -/
def binaryExpression (allowIn : Bool) : Parser Assignable := do
  let first ← rules.unaryExpression
  iterate first fun assignable => do
    let t ← upcoming
    let w := t.take (nameLength t)
    if (w == "as" || w == "satisfies") && !(← onNewLine) then
      take w.length
      rules.type
      return (false, true)
    match binaryLength allowIn t with
    | 0 => return (assignable, false)
    | n =>
      take n
      let _ ← rules.unaryExpression
      return (false, true)

/-- A condition or an assignment, or just its first operand. -/
def conditionalExpression (allowIn : Bool) : Parser Unit := do
  let assignable ← rules.binaryExpression allowIn
  let n := assignmentLength (← upcoming)
  if n != 0 then
    if assignable then
      take n
      rules (.expression allowIn)
    else fail
  else if ← symbol? "?" then
    rules.expression
    symbol ":"
    rules (.expression allowIn)

/-- `yield` after its word, with or without an operand. -/
def yieldExpression (allowIn : Bool) : Parser Unit := do
  if ← onNewLine then return
  if ← symbol? "*" then rules (.expression allowIn)
  else if startsOperand (← upcoming) then rules (.expression allowIn)

/-- An expression without a comma at its top. -/
def expressionRule (allowIn : Bool) : Parser Unit := do
  let t ← upcoming
  let plain := rules.conditionalExpression allowIn
  if t.head? == some '(' || t.head? == some '<' then
    either (rules.arrowFunction allowIn) plain
  else
    let w := t.take (nameLength t)
    if w.isEmpty then plain
    else
      let start ← get
      take w.length
      if ← sees "=>" then rules.arrowBody allowIn
      else if w == "yield" then rules.yieldExpression allowIn
      else if w == "async" && !(← onNewLine) then
        let next ← upcoming
        let parameter := next.take (nameLength next)
        if next.head? == some '(' || next.head? == some '<' then
          either (rules.arrowFunction allowIn) (do set start; plain)
        else if !parameter.isEmpty && parameter != "function" then
          take parameter.length
          if ← sees "=>" then rules.arrowBody allowIn
          else
            set start
            plain
        else
          set start
          plain
      else
        set start
        plain

end TypeShape.Source.Rules
