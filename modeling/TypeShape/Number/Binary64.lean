/-
Binary floating-point numbers of 64 bits, as exact values.

A finite number is a sign, a whole mantissa and a power of two, so reading, comparing
and printing are arithmetic on whole numbers: nothing is lost before the one rounding
that reading a decimal asks for.
-/
namespace TypeShape

/-- A double: `± mantissa * 2 ^ exponent`, an infinity, or no number. A finite value
made by this library has `mantissa < 2 ^ 53` and `-1074 ≤ exponent ≤ 971`, and a
mantissa below `2 ^ 52` only with the least exponent. -/
inductive Binary64
  | finite (negative : Bool) (mantissa : Nat) (exponent : Int)
  | infinite (negative : Bool)
  | notANumber
deriving DecidableEq, Inhabited

namespace Binary64

-- powers are those of the core library, also where a larger one brings its own
attribute [local instance (high)] instPowNat

/-- Significant bits of the mantissa. -/
def precision : Nat := 53

/-- The exponent of the smallest positive number. -/
def leastExponent : Int := -1074

/-- The exponent of the largest finite numbers. -/
def greatestExponent : Int := 971

/-- The number `0.0` or `-0.0`. -/
def zero (negative : Bool) : Binary64 :=
  .finite negative 0 leastExponent

-- ============================================================= rounding

/-- `numerator / denominator` divided by `2 ^ exponent`, again as a fraction. -/
def scale (numerator denominator : Nat) (exponent : Int) : Nat × Nat :=
  (numerator * 2 ^ (-exponent).toNat, denominator * 2 ^ exponent.toNat)

/-- The whole number nearest to a fraction; a half goes to the even neighbour. -/
def nearest (numerator denominator : Nat) : Nat :=
  let quotient := numerator / denominator
  let twice := 2 * (numerator % denominator)
  if twice > denominator ∨ (twice = denominator ∧ quotient % 2 = 1) then quotient + 1
  else quotient

/-- The exponent at which a positive fraction has a mantissa of full precision, or the
least exponent if the fraction is too small for that. -/
def exponentFor (numerator denominator : Nat) : Int :=
  let guess := max (Int.ofNat numerator.log2 - Int.ofNat denominator.log2 - precision)
    leastExponent
  let (n, d) := scale numerator denominator guess
  if n ≥ d * 2 ^ precision then guess + 1 else guess

/-- The double of an exponent, infinite if that is too great. -/
def bounded (negative : Bool) (mantissa : Nat) (exponent : Int) : Binary64 :=
  if exponent > greatestExponent then .infinite negative
  else .finite negative mantissa exponent

/-- The double of a mantissa that rounding may have carried over full precision. -/
def carried (negative : Bool) (mantissa : Nat) (exponent : Int) : Binary64 :=
  if mantissa = 2 ^ precision then bounded negative (2 ^ (precision - 1)) (exponent + 1)
  else bounded negative mantissa exponent

/-- The double nearest to a fraction. -/
def ofFraction (negative : Bool) (numerator denominator : Nat) : Binary64 :=
  if numerator = 0 then zero negative
  else
    let exponent := exponentFor numerator denominator
    let scaled := scale numerator denominator exponent
    carried negative (nearest scaled.1 scaled.2) exponent

/-- The number of decimal digits of a whole number; zero has one. -/
def digitCount (n : Nat) : Nat :=
  (Nat.toDigits 10 n).length

/-- The double nearest to `± digits * 10 ^ power`. Far outside the range the answer is
an infinity or a zero, and the power is not computed. -/
def ofDecimal (negative : Bool) (digits : Nat) (power : Int) : Binary64 :=
  let top := Int.ofNat (digitCount digits) + power
  if digits = 0 ∨ top < -330 then zero negative
  else if top > 310 then .infinite negative
  else ofFraction negative (digits * 10 ^ power.toNat) (10 ^ (-power).toNat)

/-- The double nearest to a whole number. -/
def ofInt (i : Int) : Binary64 :=
  ofDecimal (i < 0) i.natAbs 0

-- ============================================================ comparing

/-- Finite: neither infinite nor without value. -/
def isFinite : Binary64 → Bool
  | .finite .. => true
  | _ => false

/-- `± mantissa * 2 ^ exponent` in units of the least exponent. -/
def units (negative : Bool) (mantissa : Nat) (exponent : Int) : Int :=
  let size := Int.ofNat (mantissa * 2 ^ (exponent - leastExponent).toNat)
  if negative then -size else size

/-- Strictly smaller; what has no value compares with nothing. -/
def lt : Binary64 → Binary64 → Bool
  | .notANumber, _ => false
  | _, .notANumber => false
  | .infinite negative, .infinite other => negative && !other
  | .infinite negative, .finite .. => negative
  | .finite .., .infinite negative => !negative
  | .finite n m e, .finite n' m' e' => units n m e < units n' m' e'

/-- No value or zero. -/
def isZero : Binary64 → Bool
  | .finite _ 0 _ => true
  | _ => false

end Binary64

end TypeShape
