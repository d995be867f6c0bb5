/-
Markup elements inside expressions: `<Name attribute={value}>text {value}</Name>`.
-/
import TypeShape.Source.TypeRule

namespace TypeShape.Source

/-- The length of a markup name, which may hold hyphens. -/
def markupNameLength (t : Text) : Nat :=
  match nameLength t with
  | 0 => 0
  | n + 1 => n + 1 + ((t.drop (n + 1)).takeWhile fun c => isNameChar c || c == '-').length

/-- The length of text between tags. -/
def markupTextLength (t : Text) : Nat :=
  (t.takeWhile fun c => !"<>\x7b\x7d".toList.elem c).length

/-- The length of an attribute's string, which knows no escapes. -/
def markupStringLength : Text → Option Nat
  | c :: rest =>
    let inside := rest.takeWhile (· != c)
    if (c = '"' ∨ c = '\'') ∧ inside.length < rest.length then some (inside.length + 2) else none
  | [] => none

namespace Rules

variable (rules : Rules)

/-- The name of an element, with a namespace or members. -/
def markupName : Parser Unit := do
  let part : Parser Unit := do
    match markupNameLength (← upcoming) with
    | 0 => fail
    | n => take n
  part
  repeatWhile do
    if (← symbol? ".") || (← symbol? ":") then
      part
      return true
    else return false

/-- An expression in braces, which may be missing or spread. -/
def markupExpression : Parser Unit := do
  symbol "\x7b"
  if !(← sees "\x7d") then
    let _ ← symbol? "..."
    rules.sequence true
  symbol "\x7d"

/-- An attribute: spread, or a name with perhaps a value. -/
def markupAttribute : Parser Unit := do
  if ← sees "\x7b" then rules.markupExpression
  else
    markupName
    if ← symbol? "=" then
      let t ← upcoming
      match t with
      | '{' :: _ => rules.markupExpression
      | '<' :: _ => rules .element
      | _ =>
        match markupStringLength t with
        | some n => take n
        | none => fail

/-- Whether the tag that comes next is a closing one. -/
def seesClosingTag : Parser Bool := fun c =>
  .ok (['/'].isPrefixOf (c.skip.advance 1).skip.rest, c)

/-- One child between tags, where blanks are text. Tells whether there was one. -/
def markupChild : Parser Bool := fun c =>
  let c := c.advance (markupTextLength c.rest)
  match c.rest with
  | '<' :: _ => (do if ← seesClosingTag then return false else rules .element; return true) c
  | '{' :: _ => (do rules.markupExpression; return true) c
  | _ => .error { left := c.left, line := c.line }

/-- Text, elements and expressions, and the closing tag up to its name, which is not
compared with the opening one. -/
def markupChildren : Parser Unit := do
  repeatWhile rules.markupChild
  symbol "<"
  symbol "/"

/-- An element or a fragment. -/
def elementRule : Parser Unit := do
  symbol "<"
  if ← symbol? ">" then
    rules.markupChildren
    symbol ">"
  else
    markupName
    rules.typeArguments?
    repeatWhile do
      let t ← upcoming
      if markupNameLength t != 0 || t.head? == some '{' then
        rules.markupAttribute
        return true
      else return false
    if ← symbol? "/" then symbol ">"
    else
      symbol ">"
      rules.markupChildren
      markupName
      symbol ">"

end Rules

end TypeShape.Source
