/-
The lexical classes of TypeScript source, as lengths: each function tells how many
characters of the text at hand belong to the lexeme that starts there, and zero (or
nothing) when none does. Which lexeme is looked for is the grammar's choice, since the
same characters mean different things in different places.
-/
import TypeShape.Json.Reader

namespace TypeShape.Source

-- ============================================================ characters

/-- The blanks between lexemes above ASCII: white space, the byte order mark, the word
joiner and the zero-width space. -/
def wideSpaceRanges : List (Nat × Nat) :=
  [(0x85, 0x85), (0xA0, 0xA0), (0x1680, 0x1680), (0x2000, 0x200B), (0x2028, 0x2029),
    (0x202F, 0x202F), (0x205F, 0x2060), (0x3000, 0x3000), (0xFEFF, 0xFEFF)]

/-- A blank between lexemes. -/
def isSpace (c : Char) : Bool :=
  if isAscii c then (9 ≤ c.toNat && c.toNat ≤ 13) || c == ' '
  else inRanges wideSpaceRanges c

/-- The characters that end a line comment. -/
def isLineEnd (c : Char) : Bool :=
  c == '\n' || c == '\r' || c.toNat == 0x2028 || c.toNat == 0x2029

/-- The punctuation of ASCII that no name can hold. -/
def punctuation : Text :=
  ":;\x60\"'@#.,|^&<=>+-*/\\%?!~()[]\x7b\x7d"

/-- A character that can go on a name: all but control characters, blanks and
punctuation. The next-line control is a blank, the others above ASCII are not. -/
def isNameChar (c : Char) : Bool :=
  32 ≤ c.toNat && !isSpace c && !punctuation.elem c

/-- A character that can open a name. -/
def isNameStart (c : Char) : Bool :=
  isNameChar c && !c.isDigit

/-- A hexadecimal digit. -/
def isHex (c : Char) : Bool :=
  (Json.hexDigit? c).isSome

-- ================================================================= names

/-- The length of an escaped character of a name, `\uXXXX` or `\u{X}`. -/
def nameEscape : Text → Nat
  | '\\' :: 'u' :: '{' :: rest =>
    let digits := rest.takeWhile isHex
    if !digits.isEmpty && (rest.drop digits.length).head? == some '}' then digits.length + 4
    else 0
  | '\\' :: 'u' :: a :: b :: c :: d :: _ =>
    if isHex a && isHex b && isHex c && isHex d then 6 else 0
  | _ => 0

/-- The length of the characters that go on a name; the first `skip` of them belong to
an escape that was measured before. -/
def nameTail (skip : Nat) : Text → Nat
  | [] => 0
  | c :: rest =>
    match skip with
    | more + 1 => nameTail more rest + 1
    | 0 =>
      if isNameChar c then nameTail 0 rest + 1
      else match nameEscape (c :: rest) with
        | 0 => 0
        | n + 1 => nameTail n rest + 1

/-- The length of the name at the start of the text. -/
def nameLength : Text → Nat
  | [] => 0
  | c :: rest =>
    if isNameStart c then nameTail 0 rest + 1
    else match nameEscape (c :: rest) with
      | 0 => 0
      | n + 1 => nameTail n rest + 1

/-- The length of a private name, `#name`. -/
def privateLength : Text → Nat
  | '#' :: rest => match nameLength rest with
    | 0 => 0
    | n + 1 => n + 2
  | _ => 0

-- =============================================================== numbers

/-- The length of a run of digits with single underscores between them. -/
def digitRun (isDigit : Char → Bool) : Text → Nat
  | [] => 0
  | c :: rest => if isDigit c then go rest + 1 else 0
where
  /-- What goes on a run that has a digit already. -/
  go : Text → Nat
    | '_' :: c :: rest => if isDigit c then go rest + 2 else 0
    | c :: rest => if isDigit c then go rest + 1 else 0
    | [] => 0

/-- The length of an exponent. -/
def exponentLength : Text → Nat
  | e :: sign :: rest =>
    if e == 'e' || e == 'E' then
      if sign == '+' || sign == '-' then
        match digitRun Char.isDigit rest with
        | 0 => 0
        | n + 1 => n + 3
      else match digitRun Char.isDigit (sign :: rest) with
        | 0 => 0
        | n + 1 => n + 2
    else 0
  | _ => 0

/-- The length of a number with a base written before its digits. -/
def basedLength : Text → Nat
  | '0' :: b :: rest =>
    let run :=
      if b == 'x' || b == 'X' then digitRun isHex rest
      else if b == 'o' || b == 'O' then digitRun (fun c => '0' ≤ c && c ≤ '7') rest
      else if b == 'b' || b == 'B' then digitRun (fun c => c == '0' || c == '1') rest
      else 0
    if run = 0 then 0 else run + 2
  | _ => 0

/-- One more for the `n` of a big integer. -/
def withBigMark (length : Nat) (t : Text) : Nat :=
  if length ≠ 0 ∧ (t.drop length).head? = some 'n' then length + 1 else length

/-- The length of a decimal number, which may start or end with its point. -/
def decimalLength (t : Text) : Nat :=
  match t with
  | '.' :: rest =>
    let run := digitRun Char.isDigit rest
    if run = 0 then 0 else
      let length := run + 1
      length + exponentLength (t.drop length)
  | _ =>
    let run := digitRun Char.isDigit t
    if run = 0 then 0 else
      match t.drop run with
      | '.' :: rest =>
        let length := run + 1 + digitRun Char.isDigit rest
        length + exponentLength (t.drop length)
      | rest =>
        match exponentLength rest with
        | 0 => withBigMark run t
        | n => run + n

/-- The length of the number at the start of the text. -/
def numberLength (t : Text) : Nat :=
  match basedLength t with
  | 0 => decimalLength t
  | n => withBigMark n t

-- =============================================================== strings

/-- The length of what may follow a backslash in a string. -/
def stringEscape : Text → Option Nat
  | 'x' :: a :: b :: _ => if isHex a && isHex b then some 3 else none
  | 'x' :: _ => none
  | 'u' :: '{' :: rest =>
    let digits := rest.takeWhile isHex
    if !digits.isEmpty && (rest.drop digits.length).head? == some '}' then
      some (digits.length + 3)
    else none
  | 'u' :: a :: b :: c :: d :: _ =>
    if isHex a && isHex b && isHex c && isHex d then some 5 else none
  | 'u' :: _ => none
  | '\r' :: '\n' :: _ => some 2
  | _ :: _ => some 1
  | [] => none

/-- The length of a string after its opening quote, closing quote included; a line
break must be escaped. -/
def stringTail (quote : Char) (skip : Nat) : Text → Option Nat
  | [] => none
  | c :: rest =>
    match skip with
    | more + 1 => (stringTail quote more rest).map (· + 1)
    | 0 =>
      if c = quote then some 1
      else if c = '\\' then
        match stringEscape rest with
        | some n => (stringTail quote n rest).map (· + 1)
        | none => none
      else if c = '\n' ∨ c = '\r' then none
      else (stringTail quote 0 rest).map (· + 1)

/-- The length of a string, quotes included. -/
def stringLength : Text → Option Nat
  | c :: rest => if c = '"' ∨ c = '\'' then (stringTail c 0 rest).map (· + 1) else none
  | [] => none

/-- The length of template text up to the closing quote or the next substitution. -/
def templateSpan (skip : Nat) : Text → Option Nat
  | [] => none
  | c :: rest =>
    match skip with
    | more + 1 => (templateSpan more rest).map (· + 1)
    | 0 =>
      if c = '\x60' then some 0
      else if c = '$' ∧ rest.head? = some '{' then some 0
      else if c = '\\' then
        match stringEscape rest with
        | some n => (templateSpan n rest).map (· + 1)
        | none => none
      else (templateSpan 0 rest).map (· + 1)

-- =================================================== regular expressions

/-- The length of a regular expression after its opening slash, closing slash included.
In a character class a slash does not close. -/
def patternTail (inClass escaped : Bool) : Text → Option Nat
  | [] => none
  | c :: rest =>
    if c = '\n' then none
    else if escaped then (patternTail inClass false rest).map (· + 1)
    else if c = '\\' then (patternTail inClass true rest).map (· + 1)
    else if inClass then (patternTail (c != ']') false rest).map (· + 1)
    else if c = '/' then some 1
    else (patternTail (c == '[') false rest).map (· + 1)

/-- The length of a regular expression with its flags. -/
def patternLength : Text → Option Nat
  | '/' :: c :: rest =>
    if c = '/' ∨ c = '*' then none
    else (patternTail false false (c :: rest)).map fun n =>
      n + 1 + ((c :: rest).drop n |>.takeWhile Char.isLower).length
  | _ => none

-- ============================================================== comments

/-- Whether a block comment that was opened is closed. -/
def closesBlock : Text → Bool
  | '*' :: '/' :: _ => true
  | _ :: rest => closesBlock rest
  | [] => false

/-- The length of a block comment after its opening, closing included. -/
def blockTail : Text → Nat
  | '*' :: '/' :: _ => 2
  | _ :: rest => blockTail rest + 1
  | [] => 0

/-- The text of the comment at the start of the text. -/
def comment? : Text → Option Text
  | '/' :: '/' :: rest => some ('/' :: '/' :: rest.takeWhile fun c => !isLineEnd c)
  | '/' :: '*' :: rest =>
    if closesBlock rest then some ('/' :: '*' :: rest.take (blockTail rest)) else none
  | _ => none

end TypeShape.Source
