/-
Whole numbers of up to 53 bits are finite doubles.

Only that is shown, and not that they are exact: the exponent that rounding starts from is
at most one, and one more at the end is far from the greatest.
-/
import Mathlib.Algebra.Group.Nat.Defs
import TypeShape.Number.Binary64

namespace TypeShape.Binary64

theorem digitCount_le {n : Nat} (h : n ≤ 2 ^ 53) : digitCount n ≤ 16 := by
  have bound : n < 10 ^ 16 := Nat.lt_of_le_of_lt h (by decide)
  exact (Nat.length_toDigits_le_iff (by omega) (by omega)).2 bound

/-- The exponent for a whole number of up to 53 bits is at most one. -/
theorem exponentFor_le {n : Nat} (h : n ≤ 2 ^ 53) : exponentFor n 1 ≤ 1 := by
  have bits : n.log2 ≤ 53 := by
    cases Decidable.em (n = 0) with
    | inl zero => rw [zero]; decide
    | inr pos =>
        have small : n < 2 ^ 54 := Nat.lt_of_le_of_lt h (by decide)
        exact Nat.le_of_lt_succ ((Nat.log2_lt pos).2 small)
  have one : Nat.log2 1 = 0 := by decide
  unfold exponentFor
  dsimp only
  rw [one]
  have guess : max (Int.ofNat n.log2 - Int.ofNat 0 - (precision : Int)) leastExponent ≤ 0 := by
    unfold precision leastExponent
    have : Int.ofNat n.log2 ≤ 53 := Int.ofNat_le.2 bits
    show max (Int.ofNat n.log2 - 0 - 53) (-1074) ≤ 0
    omega
  split <;> omega

theorem isFinite_bounded {negative : Bool} {mantissa : Nat} {exponent : Int}
    (h : exponent ≤ greatestExponent) : (bounded negative mantissa exponent).isFinite = true := by
  unfold bounded
  rw [if_neg (by omega)]
  rfl

/-- Carrying over costs one step of the exponent. -/
theorem isFinite_carried {negative : Bool} {mantissa : Nat} {exponent : Int}
    (h : exponent < greatestExponent) : (carried negative mantissa exponent).isFinite = true := by
  unfold carried
  split
  · exact isFinite_bounded (by omega)
  · exact isFinite_bounded (by omega)

/-- A fraction with a small exponent is finite as a double. -/
theorem isFinite_ofFraction {negative : Bool} {n d : Nat} (h : exponentFor n d ≤ 1) :
    (ofFraction negative n d).isFinite = true := by
  have room : (1 : Int) < greatestExponent := by decide
  unfold ofFraction
  split
  · rfl
  · exact isFinite_carried (by omega)

/-- A whole number of up to 53 bits is finite as a double. -/
theorem isFinite_ofInt {i : Int} (h : i.natAbs ≤ 2 ^ 53) : (ofInt i).isFinite = true := by
  have few : ¬ Int.ofNat (digitCount i.natAbs) + 0 > 310 := by
    have count : Int.ofNat (digitCount i.natAbs) ≤ Int.ofNat 16 := Int.ofNat_le.2 (digitCount_le h)
    have bound : Int.ofNat 16 = 16 := rfl
    omega
  unfold ofInt ofDecimal
  dsimp only
  split
  case isTrue => rfl
  case isFalse =>
    show (ofFraction _ (i.natAbs * 1) 1).isFinite = true
    rw [Nat.mul_one]
    exact isFinite_ofFraction (exponentFor_le h)

end TypeShape.Binary64
