/-
Decimal digits, and how many of them a whole number may have.

The digits of each script are ten code points in a row, so a table of the zeros of
Unicode 14 is enough. Conversion between whole numbers and their digits is limited in
both ways: a number of more digits is neither read nor written.
-/
import TypeShape.Text.Basic

namespace TypeShape

-- powers are those of the core library, also where a larger one brings its own
attribute [local instance (high)] instPowNat

-- ================================================================ digits

/-- The code point of zero in every script that has decimal digits. -/
def digitZeros : List Nat :=
  [0x30, 0x660, 0x6F0, 0x7C0, 0x966, 0x9E6, 0xA66, 0xAE6, 0xB66, 0xBE6, 0xC66, 0xCE6, 0xD66,
   0xDE6, 0xE50, 0xED0, 0xF20, 0x1040, 0x1090, 0x17E0, 0x1810, 0x1946, 0x19D0, 0x1A80, 0x1A90,
   0x1B50, 0x1BB0, 0x1C40, 0x1C50, 0xA620, 0xA8D0, 0xA900, 0xA9D0, 0xA9F0, 0xAA50, 0xABF0,
   0xFF10, 0x104A0, 0x10D30, 0x11066, 0x110F0, 0x11136, 0x111D0, 0x112F0, 0x11450, 0x114D0,
   0x11650, 0x116C0, 0x11730, 0x118E0, 0x11950, 0x11C50, 0x11D50, 0x11DA0, 0x16A60, 0x16AC0,
   0x16B50, 0x1D7CE, 0x1D7D8, 0x1D7E2, 0x1D7EC, 0x1D7F6, 0x1E140, 0x1E2F0, 0x1E950, 0x1FBF0]

/-- The value of a decimal digit of any script. -/
def digitValue? (c : Char) : Option Nat :=
  if isAscii c then
    if c.isDigit then some (c.toNat - 48) else none
  else
    (digitZeros.find? fun first => first ≤ c.toNat && c.toNat < first + 10).map (c.toNat - ·)

-- ============================================================= the limit

/-- The most digits that a whole number may have. -/
def maxDigits : Nat := 4300

/-- The first whole number that has more. -/
def firstLong : Nat := 10 ^ maxDigits

/-- A whole number that has more. Digits that are read are counted; those of a number that
is to be written are not there yet. -/
inductive LongNumber
  | read (digits : Nat)
  | written
deriving DecidableEq

/-- The wording for a number of too many digits. -/
def LongNumber.message (number : LongNumber) : Text :=
  let decimal (n : Nat) : Text := Nat.toDigits 10 n
  let count : Text := match number with
    | .read digits => ": value has " ++ decimal digits ++ " digits"
    | .written => []
  "Exceeds the limit (" ++ decimal maxDigits ++ " digits) for integer string conversion" ++ count
    ++ "; use sys.set_int_max_str_digits() to increase the limit"

end TypeShape
