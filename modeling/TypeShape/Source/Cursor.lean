/-
The state of the source parser and its smallest steps.

A cursor always stands right after the last lexeme, so the source text of a construct
is what lies between two cursors. Blanks and comments are skipped before a lexeme, not
after it, and every step that fails says on which line a reader would look for the
fault.
-/
import TypeShape.Declaration.Basic
import TypeShape.Source.Lexeme

namespace TypeShape.Source

-- ================================================================ cursor

/-- A place in the source. `left` is the length of `rest`; `found` holds the
declarations collected so far, the latest first. -/
structure Cursor where
  rest : Text
  left : Nat
  line : Nat
  /-- Whether `<` opens markup where an operand is expected. -/
  markup : Bool
  found : List Declaration

/-- A syntax fault: how much text was left, and the line it is reported on. -/
structure Failure where
  left : Nat
  line : Nat

/-- A step over source text. -/
abbrev Parser := StateT Cursor (Except Failure)

/-- The cursor before the first character. -/
def Cursor.start (markup : Bool) (t : Text) : Cursor :=
  { rest := t, left := t.length, line := 1, markup, found := [] }

/-- Where the skipping of blanks stands. -/
inductive Skipping
  | between
  | lineComment
  | blockComment

/-- Skip blanks and comments, keeping the count of characters and lines. A block comment
that is never closed is not a comment. -/
def skipFrom (mode : Skipping) (left line : Nat) : Text → Text × Nat × Nat
  | [] => ([], left, line)
  | c :: rest =>
    let line' := if c = '\n' then line + 1 else line
    match mode with
    | .between =>
      if isSpace c then skipFrom .between (left - 1) line' rest
      else if c = '/' then
        match rest with
        | '/' :: rest => skipFrom .lineComment (left - 2) line rest
        | '*' :: rest =>
          if closesBlock rest then skipFrom .blockComment (left - 2) line rest
          else (c :: '*' :: rest, left, line)
        | rest => (c :: rest, left, line)
      else (c :: rest, left, line)
    | .lineComment => skipFrom (if isLineEnd c then .between else .lineComment) (left - 1) line' rest
    | .blockComment =>
      match rest with
      | '/' :: rest =>
        if c = '*' then skipFrom .between (left - 2) line rest
        else skipFrom .blockComment (left - 2) line' rest
      | rest => skipFrom .blockComment (left - 1) line' rest

/-- The cursor after blanks and comments. -/
def Cursor.skip (c : Cursor) : Cursor :=
  let (rest, left, line) := skipFrom .between c.left c.line c.rest
  { c with rest, left, line }

/-- The cursor after `n` characters. -/
def Cursor.advance (c : Cursor) (n : Nat) : Cursor :=
  { c with
    rest := c.rest.drop n, left := c.left - n
    line := c.line + (c.rest.take n).count '\n' }

/-- The source text from one cursor to a later one. -/
def Cursor.textTo (start stop : Cursor) : Text :=
  start.rest.take (start.left - stop.left)

-- ================================================================ faults

/-- The characters that close what was opened before them. -/
def isCloser (c : Char) : Bool :=
  c == '}' || c == ')' || c == ']' || c == '>'

/-- A fault at the next lexeme. Before the characters that could follow what is missing,
and at the end, it is looked for right after the last lexeme; any other lexeme is itself
what is wrong. -/
def failBefore {α : Type} (followers : Char → Bool) : Parser α := fun c =>
  let next := c.skip
  let missing := match next.rest with
    | [] => true
    | d :: _ => followers d
  .error { left := next.left, line := if missing then c.line else next.line }

/-- A fault at the next lexeme; something may be missing before a closing bracket. -/
def fail {α : Type} : Parser α :=
  failBefore isCloser

/-- A fault that blames the next lexeme itself. -/
def failHere {α : Type} : Parser α := fun c =>
  .error { left := c.skip.left, line := c.skip.line }

/-- The first parser, or else the second from the same place. Of two faults the one
that got further is kept. -/
def either {α : Type} (first second : Parser α) : Parser α := fun c =>
  match first c with
  | .ok r => .ok r
  | .error e => match second c with
    | .ok r => .ok r
    | .error e' => .error (if e.left < e'.left then e else e')

-- ============================================================= lookahead

/-- The text from the next lexeme on. -/
def upcoming : Parser Text := fun c => .ok (c.skip.rest, c)

/-- The name that comes next, or nothing. -/
def upcomingName : Parser Text := fun c =>
  let t := c.skip.rest
  .ok (t.take (nameLength t), c)

/-- Whether the next lexeme starts with the given text. -/
def sees (s : Text) : Parser Bool := fun c => .ok (s.isPrefixOf c.skip.rest, c)

/-- Whether a line break lies before the next lexeme. -/
def onNewLine : Parser Bool := fun c => .ok (c.line < c.skip.line, c)

-- =============================================================== lexemes

/-- Take a lexeme of `n` characters. -/
def take (n : Nat) : Parser Unit := fun c => .ok ((), c.skip.advance n)

/-- Take a symbol. -/
def symbol (s : Text) : Parser Unit := do
  if ← sees s then take s.length else fail

/-- Take a symbol if it comes next. -/
def symbol? (s : Text) : Parser Bool := do
  if ← sees s then
    take s.length
    return true
  else return false

/-- Take any name. -/
def name : Parser Text := do
  let w ← upcomingName
  -- a body opens after a name
  if w.isEmpty then failBefore fun c => isCloser c || c == '{'
  else
    take w.length
    return w

/-- Take a word. -/
def keyword (w : Text) : Parser Unit := do
  if (← upcomingName) == w then take w.length else fail

/-- Take a word if it comes next. -/
def keyword? (w : Text) : Parser Bool := do
  if (← upcomingName) == w then
    take w.length
    return true
  else return false

/-- Take a string. -/
def string : Parser Unit := do
  match stringLength (← upcoming) with
  | some n => take n
  | none => fail

/-- Take a number. -/
def number : Parser Unit := do
  match numberLength (← upcoming) with
  | 0 => fail
  | n => take n

/-- The text that a parser takes, without the blanks before it. -/
def textOf (p : Parser Unit) : Parser Text := fun c =>
  match p c with
  | .error e => .error e
  | .ok ((), c') => .ok (c.skip.textTo c', c')

-- ================================================================= loops

/-- Repeat a step that tells whether to go on, at most `rounds` times. -/
def loop {σ : Type} (step : σ → Parser (σ × Bool)) : Nat → σ → Parser σ
  | 0, _, c => .error { left := c.left, line := c.line }
  | rounds + 1, s, c =>
    match step s c with
    | .error e => .error e
    | .ok ((s, true), c) => loop step rounds s c
    | .ok ((s, false), c) => .ok (s, c)

/-- Repeat a step that takes something in every round but the last: there cannot be
more rounds than characters. -/
def iterate {σ : Type} (init : σ) (step : σ → Parser (σ × Bool)) : Parser σ := fun c =>
  loop step (c.left + 1) init c

/-- Repeat a step until it says no. -/
def repeatWhile (step : Parser Bool) : Parser Unit :=
  iterate () fun _ => do return ((), ← step)

/-- Items with commas between them, and perhaps one at the end, up to a closing
symbol, which is taken too. -/
def commaList (close : Text) (item : Parser Unit) : Parser Unit := do
  repeatWhile do
    if ← sees close then return false
    item
    symbol? ","
  symbol close

/-- At least one item with commas between them. -/
def commaItems (item : Parser Unit) : Parser Unit :=
  repeatWhile do
    item
    symbol? ","

-- ============================================================ semicolons

/-- What a line break does not end a construct before: the next line goes on with it. -/
def continuesLine (inExpression : Bool) : Text → Bool
  | [] => false
  | '+' :: '+' :: _ => false
  | '-' :: '-' :: _ => false
  | '!' :: '=' :: _ => true
  | '(' :: _ => inExpression
  | '[' :: _ => inExpression
  | t@(c :: _) =>
    "\x60,.;*%><=?^|&/:+-".toList.elem c
      || t.take (nameLength t) == "in" || t.take (nameLength t) == "instanceof"

/-- Whether a construct may end here without a semicolon: at the end, before a closing
brace, or at a line break after which the text does not go on with it. -/
def endsHere (inExpression : Bool) : Parser Bool := fun c =>
  let next := c.skip
  let ends := match next.rest with
    | [] => true
    | '}' :: _ => true
    | t => c.line < next.line && !continuesLine inExpression t
  .ok (ends, c)

/-- The end of a statement. -/
def semicolon : Parser Unit := do
  if ← symbol? ";" then return
  if ← endsHere true then return
  fail

end TypeShape.Source
