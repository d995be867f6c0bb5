/-
The shortest decimal that reads back as a given double.

The reals that round to a double form an interval, closed if the mantissa is even. For
one digit, two digits and so on up to seventeen, the two neighbours of the value on
that decimal grid are tested; the first grid with a neighbour inside the interval
gives the digits, and of two such neighbours the nearer one.
-/
import TypeShape.Number.Binary64
import TypeShape.Text.Basic

namespace TypeShape.Binary64

-- powers are those of the core library, also where a larger one brings its own
attribute [local instance (high)] instPowNat

-- ================================================================ digits

/-- Seventeen digits tell any two doubles apart. -/
def mostDigits : Nat := 17

/-- The value and the ends of its interval in quarters of the last mantissa bit. -/
structure Interval where
  low : Nat
  value : Nat
  high : Nat
  closed : Bool

/-- The interval of reals that round to a mantissa. Below a power of two the numbers
lie closer together. -/
def Interval.around (mantissa : Nat) (exponent : Int) : Interval where
  low := 4 * mantissa -
    (if mantissa = 2 ^ (precision - 1) ∧ exponent > leastExponent then 1 else 2)
  value := 4 * mantissa
  high := 4 * mantissa + 2
  closed := mantissa % 2 = 0

/-- Whether a grid point lies in the interval; `scale` is the size of a quarter and
`step` that of the grid, in one unit. -/
def Interval.holds (i : Interval) (scale step point : Nat) : Bool :=
  if i.closed then i.low * scale ≤ point * step && point * step ≤ i.high * scale
  else i.low * scale < point * step && point * step < i.high * scale

/-- The point of a grid that stands for the value, if there is one. -/
def Interval.pick? (i : Interval) (scale step : Nat) : Option Nat :=
  let below := i.value * scale / step
  let rest := 2 * (i.value * scale % step)
  match i.holds scale step below, i.holds scale step (below + 1) with
  | true, true =>
    some (if rest < step ∨ (rest = step ∧ below % 2 = 0) then below else below + 1)
  | true, false => some below
  | false, true => some (below + 1)
  | false, false => none

/-- Digits and the power of ten they are multiplied with. -/
structure Decimal where
  digits : Nat
  power : Int
deriving DecidableEq

/-- Drop the zeros at the end of the digits. -/
def Decimal.reduce : Nat → Decimal → Decimal
  | 0, d => d
  | fuel + 1, ⟨digits, power⟩ =>
    if digits ≠ 0 ∧ digits % 10 = 0 then reduce fuel ⟨digits / 10, power + 1⟩
    else ⟨digits, power⟩

/-- How many digits a positive value has before its point; negative for zeros after it.
The smallest double has its first digit at place 324. -/
def magnitude (numerator denominator : Nat) : Int :=
  Int.ofNat (digitCount (numerator * 10 ^ (330 : Nat) / denominator)) - 330

/-- The shortest decimal of a positive finite number. -/
def shortest (mantissa : Nat) (exponent : Int) : Decimal :=
  let interval := Interval.around mantissa exponent
  -- a quarter of the last bit is `2 ^ (exponent - 2)`
  let up := 2 ^ (exponent - 2).toNat
  let down := 2 ^ (2 - exponent).toNat
  let places := magnitude (4 * mantissa * up) down
  let pointAt? (count : Nat) : Option Decimal :=
    let power := places - count
    (interval.pick? (up * 10 ^ (-power).toNat) (down * 10 ^ power.toNat)).map (⟨·, power⟩)
  let found := (List.range mostDigits).findSome? fun i => pointAt? (i + 1)
  (found.getD ⟨0, 0⟩).reduce (mostDigits + 1)

-- ============================================================== printing

/-- The digits of a whole number. -/
def digitText (n : Nat) : Text :=
  Nat.toDigits 10 n

/-- A run of zeros. -/
def zeros (n : Nat) : Text :=
  List.replicate n '0'

/-- Digits with the decimal point after the first `point` of them. -/
def positional (digits : Text) (point : Int) : Text :=
  if point ≤ 0 then '0' :: '.' :: zeros (-point).toNat ++ digits
  else
    let before := point.toNat
    if digits.length ≤ before then digits ++ zeros (before - digits.length) ++ ".0"
    else digits.take before ++ '.' :: digits.drop before

/-- Digits with one of them before the point, and an exponent of two digits or more. -/
def scientific (digits : Text) (point : Int) : Text :=
  let exponent := point - 1
  let size := digitText exponent.natAbs
  let size := if size.length < 2 then '0' :: size else size
  let body := match digits with
    | first :: second :: rest => first :: '.' :: second :: rest
    | _ => digits
  body ++ 'e' :: (if exponent < 0 then '-' else '+') :: size

/-- Positional from `1e-4` on and below `1e16`, else with an exponent. -/
def layout (d : Decimal) : Text :=
  let digits := digitText d.digits
  let point := Int.ofNat digits.length + d.power
  if -4 < point ∧ point ≤ 16 then positional digits point else scientific digits point

/-- The shortest text that reads back as the number; a whole number keeps its `.0`. -/
def toText : Binary64 → Text
  | .notANumber => "nan"
  | .infinite negative => if negative then "-inf" else "inf"
  | .finite negative mantissa exponent =>
    let size : Text := if mantissa = 0 then "0.0" else layout (shortest mantissa exponent)
    if negative then '-' :: size else size

end TypeShape.Binary64
