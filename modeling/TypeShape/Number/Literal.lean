/-
Numbers as people write them: blanks around, a sign, digits of any script with single
underscores between them, and for floating-point numbers also a point, an exponent and
the words for what is not finite.

The blanks around a number are white space without the separators of fields, groups,
records and units. A whole number may have too many digits, and then it does not matter
what follows them.
-/
import TypeShape.Json.Reader
import TypeShape.Text.Case

namespace TypeShape.NumberLiteral

-- =============================================================== pieces

/-- The blanks that may stand around a number. -/
def isAround (c : Char) : Bool :=
  isBlank c && !isSeparator c

/-- A text without the blanks around it. -/
def trim (t : Text) : Text :=
  ((t.dropWhile isAround).reverse.dropWhile isAround).reverse

/-- Digits of any script as digits of ASCII. -/
def plainDigit (c : Char) : Char :=
  match digitValue? c with
  | some n => Char.ofNat (n + 48)
  | none => c

/-- Remove underscores, each of which must stand between two digits. -/
def joinDigits? : Text → Option Text
  | [] => some []
  | '_' :: _ => none
  | c :: '_' :: d :: rest =>
    if c.isDigit && d.isDigit then (joinDigits? (d :: rest)).map (c :: ·) else none
  | c :: rest => (joinDigits? rest).map (c :: ·)

/-- The sign at the start of a text, and the rest. -/
def readSign : Text → Bool × Text
  | '-' :: rest => (true, rest)
  | '+' :: rest => (false, rest)
  | t => (false, t)

/-- The sign and the rest of a written number in plain digits. -/
def prepare (t : Text) : Bool × Text :=
  readSign ((trim t).map plainDigit)

-- ============================================================== numbers

/-- Whether a character belongs to a run of digits. -/
def isOfDigits (c : Char) : Bool :=
  c.isDigit || c == '_'

/-- A whole number, unless it has too many digits; nothing if the text is none. -/
def whole? (t : Text) : Option (Except LongNumber Int) := do
  let (negative, body) := prepare t
  let digits ← joinDigits? (body.takeWhile isOfDigits)
  match Json.wholeNumber negative digits with
  | .error number => return .error number
  | .ok i => if digits.isEmpty || !body.all isOfDigits then none else return .ok i

/-- A whole number. -/
def int? (t : Text) : Option Int := do
  (← whole? t).toOption

/-- The digits before and after a decimal point, and what follows; there is at least one
digit. -/
def readMantissa? (t : Text) : Option (Text × Text × Text) :=
  let (whole, rest) := Json.spanDigits t
  let (fraction, rest) := match rest with
    | '.' :: rest => Json.spanDigits rest
    | rest => ([], rest)
  if whole.isEmpty && fraction.isEmpty then none else some (whole, fraction, rest)

/-- The words for numbers that are not finite. -/
def words : List (Text × (Bool → Binary64)) :=
  [("inf", .infinite), ("infinity", .infinite), ("nan", fun _ => .notANumber)]

/-- A floating-point number. -/
def float? (t : Text) : Option Binary64 := do
  let (negative, written) := prepare t
  let body ← joinDigits? written
  match words.find? fun (word, _) => word == body.map Char.toLower with
  | some (_, value) => return value negative
  | none =>
    let (whole, fraction, rest) ← readMantissa? body
    let number (exponent : Int) : Binary64 :=
      .ofDecimal negative (Json.digitsValue (whole ++ fraction)) (exponent - fraction.length)
    if rest.isEmpty then return number 0
    else
      let (exponent, left) ← Json.readExponent? rest
      if left.isEmpty then return number exponent else none

end TypeShape.NumberLiteral
