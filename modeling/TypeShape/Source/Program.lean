/-
Whole source texts, and inline object literals. A text is parsed as one program, and a
syntax fault anywhere makes the whole text fail. A literal is parsed as the body of an
interface with a given name, so whatever the name and the literal make of the text
together is what counts.

The rules recurse through goals; `parse` ties the knot by counting nesting down from a
bound that no text of that length can reach, since every goal that is entered inside
another one has taken at least one character in between, save for a fixed number of
steps.
-/
import TypeShape.Fault
import TypeShape.Source.StatementRule

namespace TypeShape.Source

/-- The parser of every goal, for texts of limited nesting. -/
def parse : Nat → Rules
  | 0, _ => fail
  | depth + 1, goal => match goal with
    | .type => Rules.typeRule (parse depth)
    | .expression allowIn => Rules.expressionRule (parse depth) allowIn
    | .statement => Rules.statementRule (parse depth)
    | .element => Rules.elementRule (parse depth)

/-- All statements of a text. -/
def program (rules : Rules) : Parser Unit := do
  if ← sees "#!" then modify fun c => c.advance (c.rest.takeWhile fun d => !isLineEnd d).length
  repeatWhile do
    if (← upcoming).isEmpty then return false
    rules.statement
    return true

/-- The declarations of a source text, or the line of its first syntax fault. -/
def declarations (markup : Bool) (t : Text) : Except Nat (List Declaration) :=
  let start := Cursor.start markup t
  match program (parse (4 * start.left + 16)) start with
  | .ok (_, c) => .ok c.found.reverse
  | .error e => .error e.line

/-- The ending of the path that makes a text one with markup; case matters. -/
def markupSuffix : Text := ".tsx"

/-- Parse a text that is known by a path. -/
def parseText (t path : Text) : Except Nat ParsedFile := do
  let declarations ← declarations (markupSuffix.isSuffixOf path) t
  return { path, declarations }

-- ============================================================== literals

/-- The path under which literals are reported. -/
def literalPath : Text := "<inline>.ts"

/-- The name of a literal that nobody names. -/
def literalName : Text := "InlineObject"

/-- Parse a text that is known by a path, or say why it cannot be parsed. -/
def read (t path : Text) : Except Fault ParsedFile :=
  (parseText t path).mapError fun line => .unreadable path (.unparsable line)

/-- The declaration that a literal makes under a name: the first one of the text. -/
def readLiteral (name literal : Text) : Except Fault Declaration := do
  let file ← read ("interface " ++ name ++ ' ' :: literal) literalPath
  match file.declarations with
  | d :: _ => return d
  | [] => .error (.noDeclaration literal)

end TypeShape.Source
