/-
Reading JSON text.

The reader works on the text that is left, and a fault is the text that was left where
it was seen; the offset, line and column of the message are counted from that. Beside
the standard it reads `NaN`, `Infinity` and `-Infinity`. Of entries with one key the
last value stands, in the place of the first.

A text that is JSON can still stop the reader: at a whole number of too many digits, and
at a surrogate without its partner. The first is a fault of its own; the second is no
character, so a string with it is no text and is left out of what is told here.
-/
import TypeShape.Json.Basic
import TypeShape.Number.Digit

namespace TypeShape.Json

-- ================================================================ faults

/-- What is wrong with a text that is not JSON. -/
inductive Flaw
  | noValue
  | extraData
  | noKey
  | noColon
  | noComma
  | openString
  | controlCharacter
  | badEscape
  | badUnicodeEscape
  | byteOrderMark
deriving DecidableEq

/-- The wording of a flaw. -/
def Flaw.wording : Flaw → Text
  | .noValue => "Expecting value"
  | .extraData => "Extra data"
  | .noKey => "Expecting property name enclosed in double quotes"
  | .noColon => "Expecting ':' delimiter"
  | .noComma => "Expecting ',' delimiter"
  | .openString => "Unterminated string starting at"
  | .controlCharacter => "Invalid control character at"
  | .badEscape => "Invalid \\escape"
  | .badUnicodeEscape => "Invalid \\uXXXX escape"
  | .byteOrderMark => "Unexpected UTF-8 BOM (decode using utf-8-sig)"

/-- A flaw and the offset at which it was seen. -/
structure ReadFault where
  flaw : Flaw
  offset : Nat
  line : Nat
  column : Nat
deriving DecidableEq

/-- Lines and columns count from one; only a line feed starts a line. -/
def ReadFault.at (flaw : Flaw) (t : Text) (offset : Nat) : ReadFault :=
  let before := t.take offset
  { flaw, offset
    line := before.count '\n' + 1
    column := (before.reverse.takeWhile (· != '\n')).length + 1 }

/-- The message of a read fault. -/
def ReadFault.message (f : ReadFault) : Text :=
  let number (n : Nat) : Text := Nat.toDigits 10 n
  f.flaw.wording ++ ": line " ++ number f.line ++ " column " ++ number f.column
    ++ " (char " ++ number f.offset ++ ")"

/-- Why reading stops: a flaw of the text, a number of too many digits, or a surrogate
without its partner, which no string is told to hold. -/
inductive Stop (α : Type)
  | flaw (what : α)
  | longNumber (number : LongNumber)
  | unpaired
deriving DecidableEq

/-- The same stop, with its flaw seen another way. -/
def Stop.map {α β : Type} (f : α → β) : Stop α → Stop β
  | .flaw what => .flaw (f what)
  | .longNumber number => .longNumber number
  | .unpaired => .unpaired

/-- The message of a stop; what is left out has none. -/
def Stop.message : Stop ReadFault → Text
  | .flaw fault => fault.message
  | .longNumber number => number.message
  | .unpaired => []

/-- The reader's answers: a flaw comes with the text that was left where it was seen. -/
abbrev Read := Except (Stop (Flaw × Text))

/-- Reading stops at a flaw. -/
def flawed {α : Type} (flaw : Flaw) (left : Text) : Read α :=
  .error (.flaw (flaw, left))

-- ================================================================ blanks

/-- The four blanks of JSON. -/
def isSpace (c : Char) : Bool :=
  c == ' ' || c == '\t' || c == '\n' || c == '\r'

/-- The text after its leading blanks. -/
def skip (t : Text) : Text :=
  t.dropWhile isSpace

-- =============================================================== strings

/-- The value of a hexadecimal digit. -/
def hexDigit? (c : Char) : Option Nat :=
  if c.isDigit then some (c.toNat - 48)
  else if 'a' ≤ c ∧ c ≤ 'f' then some (c.toNat - 87)
  else if 'A' ≤ c ∧ c ≤ 'F' then some (c.toNat - 55)
  else none

/-- The value of four hexadecimal digits. -/
def hex4? (a b c d : Char) : Option Nat := do
  return (((← hexDigit? a) * 16 + (← hexDigit? b)) * 16 + (← hexDigit? c)) * 16 + (← hexDigit? d)

/-- The character of an escape of one letter. -/
def simpleEscape? : Char → Option Char
  | '"' => some '"'
  | '\\' => some '\\'
  | '/' => some '/'
  | 'b' => some '\x08'
  | 'f' => some '\x0c'
  | 'n' => some '\n'
  | 'r' => some '\r'
  | 't' => some '\t'
  | _ => none

/-- A code unit that opens a surrogate pair. -/
def isHighSurrogate (n : Nat) : Bool := 0xD800 ≤ n && n < 0xDC00

/-- A code unit that closes a surrogate pair. -/
def isLowSurrogate (n : Nat) : Bool := 0xDC00 ≤ n && n < 0xE000

/-- The character of a code unit, if it is no surrogate. -/
def unitChar? (n : Nat) : Option Char :=
  if isHighSurrogate n || isLowSurrogate n then none else some (Char.ofNat n)

/-- The character of a surrogate pair. -/
def pairChar (high low : Nat) : Char :=
  Char.ofNat (0x10000 + (high - 0xD800) * 0x400 + (low - 0xDC00))

/-- Code units as characters, if every surrogate has its partner. -/
def joinUnits? : List Nat → Option Text
  | [] => some []
  | [n] => (unitChar? n).map ([·])
  | high :: low :: rest =>
    if isHighSurrogate high && isLowSurrogate low then
      (joinUnits? rest).map (pairChar high low :: ·)
    else do return (← unitChar? high) :: (← joinUnits? (low :: rest))

/-- The rest of a string after its opening quote, as code units; `start` is the text at
that quote. An escape of a code unit must leave at least one character after it. -/
def readUnits (start : Text) : Text → Read (List Nat × Text)
  | [] => flawed .openString start
  | '"' :: rest => .ok ([], rest)
  | ['\\'] => flawed .openString start
  | '\\' :: 'u' :: a :: b :: c :: d :: next :: rest => do
    let some unit := hex4? a b c d
      | flawed .badUnicodeEscape ('u' :: a :: b :: c :: d :: next :: rest)
    let (units, left) ← readUnits start (next :: rest)
    return (unit :: units, left)
  | '\\' :: 'u' :: rest => flawed .badUnicodeEscape ('u' :: rest)
  | '\\' :: c :: rest => do
    let some e := simpleEscape? c | flawed .badEscape ('\\' :: c :: rest)
    let (units, left) ← readUnits start rest
    return (e.toNat :: units, left)
  | c :: rest =>
    if c.toNat < 32 then flawed .controlCharacter (c :: rest)
    else do
      let (units, left) ← readUnits start rest
      return (c.toNat :: units, left)
termination_by structural t => t

/-- The rest of a string after its opening quote. -/
def readString (start t : Text) : Read (Text × Text) := do
  let (units, left) ← readUnits start t
  match joinUnits? units with
  | some s => return (s, left)
  | none => .error .unpaired

-- =============================================================== numbers

/-- The number that digits spell. -/
def digitsValue (digits : Text) : Nat :=
  digits.foldl (fun n c => n * 10 + (c.toNat - 48)) 0

/-- The digits at the start of the text. -/
def spanDigits (t : Text) : Text × Text :=
  (t.takeWhile Char.isDigit, t.dropWhile Char.isDigit)

/-- A fraction: a point with at least one digit after it. -/
def readFraction : Text → Text × Text
  | '.' :: c :: rest =>
    if c.isDigit then spanDigits (c :: rest) else ([], '.' :: c :: rest)
  | t => ([], t)

/-- An exponent: `e` or `E`, a sign if there is one, and at least one digit. -/
def readExponent? : Text → Option (Int × Text)
  | e :: rest =>
    if e == 'e' || e == 'E' then
      let (negative, rest) := match rest with
        | '-' :: r => (true, r)
        | '+' :: r => (false, r)
        | r => (false, r)
      let (digits, left) := spanDigits rest
      if digits.isEmpty then none
      else some (if negative then -(digitsValue digits : Int) else digitsValue digits, left)
    else none
  | [] => none

/-- The whole number that digits spell, with its sign. Its digits are counted first. -/
def wholeNumber (negative : Bool) (digits : Text) : Except LongNumber Int :=
  if maxDigits < digits.length then .error (.read digits.length)
  else
    let n : Int := digitsValue digits
    .ok (if negative then -n else n)

/-- A number after its sign, or nothing if there is none: no leading zero, and a
floating-point number, of any length, as soon as there is a fraction or an exponent. -/
def readNumber? (negative : Bool) (t : Text) : Option (Read (Json × Text)) :=
  let whole? : Option (Text × Text) := match t with
    | '0' :: rest => some (['0'], rest)
    | c :: rest => if c.isDigit then some (spanDigits (c :: rest)) else none
    | [] => none
  whole?.map fun (whole, rest) =>
    let (fraction, rest) := readFraction rest
    let float (exponent : Int) : Json :=
      .float (.ofDecimal negative (digitsValue (whole ++ fraction)) (exponent - fraction.length))
    match readExponent? rest with
    | some (exponent, rest) => .ok (float exponent, rest)
    | none =>
      if fraction.isEmpty then
        match wholeNumber negative whole with
        | .ok i => .ok (.int i, rest)
        | .error number => .error (.longNumber number)
      else .ok (float 0, rest)

-- ================================================================ values

/-- The text after a word it starts with. -/
def afterWord? (word t : Text) : Option Text :=
  if word.isPrefixOf t then some (t.drop word.length) else none

/-- The words that are values. -/
def words : List (Text × Json) :=
  [("null", .null), ("true", .bool true), ("false", .bool false), ("NaN", .float .notANumber),
   ("Infinity", .float (.infinite false)), ("-Infinity", .float (.infinite true))]

/-- A word or a number. -/
def readScalar (t : Text) : Read (Json × Text) :=
  match words.findSome? fun (word, value) => (afterWord? word t).map ((value, ·)) with
  | some found => .ok found
  | none =>
    let number? := match t with
      | '-' :: rest => readNumber? true rest
      | t => readNumber? false t
    match number? with
    | some found => found
    | none => flawed .noValue t

mutual

/-- One value at the start of the text. -/
def readValue : Nat → Text → Read (Json × Text)
  | 0, t => flawed .noValue t
  | fuel + 1, t =>
    match t with
    | '"' :: rest => do
      let (s, left) ← readString t rest
      return (.str s, left)
    | '[' :: rest =>
      match skip rest with
      | ']' :: left => .ok (.arr [], left)
      | first => do
        let (items, left) ← readItems fuel first
        return (.arr items, left)
    | '{' :: rest =>
      match skip rest with
      | '}' :: left => .ok (.obj [], left)
      | first => do
        let (entries, left) ← readEntries fuel [] first
        return (.obj entries, left)
    | t => readScalar t
termination_by structural fuel => fuel

/-- The items of a list and its closing bracket. -/
def readItems : Nat → Text → Read (List Json × Text)
  | 0, t => flawed .noValue t
  | fuel + 1, t => do
    let (item, left) ← readValue fuel t
    match skip left with
    | ']' :: left => return ([item], left)
    | ',' :: left =>
      let (items, left) ← readItems fuel (skip left)
      return (item :: items, left)
    | left => flawed .noComma left
termination_by structural fuel => fuel

/-- The entries of an object after the ones already `read`, and its closing brace. -/
def readEntries : Nat → List (Text × Json) → Text → Read (List (Text × Json) × Text)
  | 0, _, t => flawed .noKey t
  | fuel + 1, read, t =>
    match t with
    | '"' :: rest => do
      let (key, left) ← readString t rest
      match skip left with
      | ':' :: left =>
        let (value, left) ← readValue fuel (skip left)
        let read := insert key value read
        match skip left with
        | '}' :: left => return (read, left)
        | ',' :: left => readEntries fuel read (skip left)
        | left => flawed .noComma left
      | left => flawed .noColon left
    | t => flawed .noKey t
termination_by structural fuel => fuel

end

/-- A value with nothing but blanks around it. -/
def readAll (t : Text) : Read Json :=
  match t with
  | '\uFEFF' :: _ => flawed .byteOrderMark t
  | _ => do
    let (value, left) ← readValue (2 * t.length + 2) (skip t)
    if (skip left).isEmpty then return value else flawed .extraData (skip left)

/-- Read a text as one JSON value. -/
def read (t : Text) : Except (Stop ReadFault) Json :=
  (readAll t).mapError (.map fun (flaw, left) => .at flaw t (t.length - left.length))

end TypeShape.Json
