/-
What the rules of the grammar recurse into.

Types hold expressions (defaults of parameters, computed names), expressions hold
statements (bodies of functions) and statements hold types, so the rules would be one
large mutual recursion. Instead every rule is a plain definition that is given the
parser for the goals below; the knot is tied once, for all goals, in `Source.Program`.
-/
import TypeShape.Source.Cursor

namespace TypeShape.Source

/-- A nonterminal that rules call each other through. -/
inductive Goal
  /-- A type. -/
  | type
  /-- An expression without a comma at its top; `in` is an operator only if allowed. -/
  | expression (allowIn : Bool)
  /-- A statement. -/
  | statement
  /-- A markup element. -/
  | element
deriving DecidableEq

/-- The parser of every goal. -/
abbrev Rules := Goal → Parser Unit

namespace Rules

variable (rules : Rules)

/-- A type. -/
def type : Parser Unit := rules .type

/-- An expression with every operator. -/
def expression : Parser Unit := rules (.expression true)

/-- A statement. -/
def statement : Parser Unit := rules .statement

/-- Expressions with commas between them. -/
def sequence (allowIn : Bool) : Parser Unit :=
  commaItems (rules (.expression allowIn))

/-- Statements in braces. -/
def block : Parser Unit := do
  symbol "\x7b"
  repeatWhile do
    if ← sees "\x7d" then return false
    rules.statement
    return true
  symbol "\x7d"

/-- Decorators: a name, perhaps with members and arguments, or an expression in
parentheses. -/
def decorators (arguments : Parser Unit) : Parser Unit :=
  repeatWhile do
    if ← symbol? "@" then
      if ← symbol? "(" then
        rules.sequence true
        symbol ")"
      else
        let _ ← name
        repeatWhile do
          if ← symbol? "." then
            let _ ← name
            return true
          else return false
        if (← sees "<") || (← sees "(") then arguments
      return true
    else return false

end Rules

end TypeShape.Source
