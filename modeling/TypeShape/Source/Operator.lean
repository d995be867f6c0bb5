/-
The operators of expressions. Whether a character sequence is an operator depends on
what could stand in its place, so these are questions about the text that comes next.
-/
import TypeShape.Source.Lexeme

namespace TypeShape.Source

/-- Assignments that combine with an operator. -/
def compoundAssignments : List Text :=
  [">>>=", "<<=", ">>=", "**=", "&&=", "||=", "??=", "+=", "-=", "*=", "/=", "%=", "&=", "|=",
    "^="]

/-- The length of the first text of a list that comes next. -/
def lengthOfFirst (candidates : List Text) (t : Text) : Nat :=
  ((candidates.find? fun s => s.isPrefixOf t).map List.length).getD 0

/-- The length of an assignment operator, zero if none comes next. -/
def assignmentLength (t : Text) : Nat :=
  match t with
  | '=' :: '=' :: _ => 0
  | '=' :: '>' :: _ => 0
  | '=' :: _ => 1
  | _ => lengthOfFirst compoundAssignments t

/-- Binary operators, longer ones first. -/
def binarySymbols : List Text :=
  ["===", "!==", ">>>", "&&", "||", "??", "==", "!=", "<=", ">=", "<<", ">>", "**",
    "&", "|", "^", "<", ">", "+", "-", "*", "/", "%"]

/-- The length of a binary operator, zero if none comes next. The word `in` is an
operator only where it is allowed. -/
def binaryLength (allowIn : Bool) (t : Text) : Nat :=
  match t with
  | '+' :: '+' :: _ => 0
  | '-' :: '-' :: _ => 0
  | _ =>
    if assignmentLength t != 0 then 0
    else
      let w := t.take (nameLength t)
      if w == "instanceof" then w.length
      else if w == "in" then (if allowIn then w.length else 0)
      else if w.isEmpty then lengthOfFirst binarySymbols t
      else 0

/-- The length of an operator that stands before its operand. Words are operators here
only when an operand can follow them. -/
def unaryLength (t : Text) : Nat :=
  match t with
  | '+' :: '+' :: _ => 2
  | '-' :: '-' :: _ => 2
  | '!' :: _ => 1
  | '~' :: _ => 1
  | '+' :: _ => 1
  | '-' :: _ => 1
  | _ =>
    let w := t.take (nameLength t)
    if w == "typeof" || w == "void" || w == "delete" then w.length else 0

/-- Whether an operand can start with the text: a name, a literal, an opening bracket
or an operator that stands before its operand. -/
def startsOperand (t : Text) : Bool :=
  nameLength t != 0 || privateLength t != 0 || numberLength t != 0 ||
    match t with
    | [] => false
    | c :: _ => "([\x7b\"'\x60/+-!~<@".toList.elem c

end TypeShape.Source
