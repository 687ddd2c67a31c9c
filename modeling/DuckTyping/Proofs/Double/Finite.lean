import DuckTyping.Document
import Mathlib.Algebra.Order.Ring.Nat

/-!
# Finite numbers

Rounding gives a finite number unless the magnitude lies beyond the greatest binade.  The significand
that is rounded has at most 53 bits, so the result lies in the binade of the magnitude or is the
least number of the next one.  Integers of 64 bits are far below the greatest binade, and therefore
every number of a document converts to a finite double.

Main results:

- `Double.nearestWord_le`: the word of a rounded magnitude in terms of its binade.
- `Double.isFinite_nearest`: magnitudes below the greatest binade are rounded to finite numbers.
- `Double.isFinite_ofInt`: integers of at most 1022 bits convert to finite numbers.
- `Number.isFinite_toDouble`: so do all numbers of documents.
-/

namespace DuckTyping
namespace Double

/-! ## Words -/

/-- The sign does not touch the rest of the word. -/
theorem magnitudeWord_ofMagnitude {word : Nat} (h : word < signWeight) (negative : Bool) :
    (ofMagnitude negative word).magnitudeWord = word := by
  have hweight : signWeight = 9223372036854775808 := rfl
  rw [hweight] at h
  rw [magnitudeWord, ofMagnitude, UInt64.toNat_ofNat', hweight]
  cases negative with
  | false =>
    simp only [Bool.false_eq_true, if_false]
    omega
  | true =>
    simp only [if_true]
    omega

theorem isNaN_eq_false_of_isFinite {x : Double} (h : x.isFinite = true) : x.isNaN = false := by
  rw [isFinite, decide_eq_true_eq] at h
  rw [isNaN, decide_eq_false_iff_not]
  omega

/-! ## Rounding -/

theorem roundHalfEven_le (numerator denominator : Nat) :
    roundHalfEven numerator denominator ≤ numerator / denominator + 1 := by
  unfold roundHalfEven
  dsimp only
  split
  · omega
  · split
    · omega
    · omega

/-- In its binade the significand of a magnitude has at most 53 bits. -/
theorem div_binade_lt (numerator denominator : Nat) :
    numerator / (denominator * 2 ^ binade numerator denominator) < 2 ^ 53 := by
  rw [← Nat.div_div_eq_div_mul, Nat.div_lt_iff_lt_mul (Nat.two_pow_pos _), ← Nat.pow_add]
  have hbits : binade numerator denominator = (numerator / denominator).log2 - 52 := rfl
  calc numerator / denominator
      < 2 ^ ((numerator / denominator).log2 + 1) := Nat.lt_log2_self
    _ ≤ 2 ^ (53 + binade numerator denominator) :=
        Nat.pow_le_pow_right (by decide) (by omega)

/-- A rounded magnitude lies in its binade, or is the least number of the next one. -/
theorem nearestWord_le (numerator denominator : Nat) :
    nearestWord numerator denominator ≤ (binade numerator denominator + 2) * fractionLimit := by
  have hbits := div_binade_lt numerator denominator
  have hround := roundHalfEven_le numerator (denominator * 2 ^ binade numerator denominator)
  have hlimit : 2 ^ 53 = 2 * fractionLimit := rfl
  rw [nearestWord, Nat.add_mul]
  refine (Nat.min_le_left _ _).trans (Nat.add_le_add_left ?_ _)
  exact hround.trans (by omega)

theorem binade_lt {numerator denominator bound : Nat} (hbound : 0 < bound)
    (h : numerator / denominator < 2 ^ (bound + 52)) : binade numerator denominator < bound := by
  rw [binade]
  rcases Nat.eq_zero_or_pos (numerator / denominator) with hzero | hpos
  · rw [hzero, Nat.log2_zero]
    omega
  · have hlog : (numerator / denominator).log2 < bound + 52 :=
      (Nat.log2_lt (Nat.ne_of_gt hpos)).mpr h
    omega

/-- A magnitude below the greatest binade is rounded to a finite number. -/
theorem isFinite_nearest {numerator denominator : Nat} (h : binade numerator denominator < 2045)
    (negative : Bool) : (nearest negative numerator denominator).isFinite = true := by
  have hlimit : fractionLimit = 4503599627370496 := rfl
  have hword := nearestWord_le numerator denominator
  have hbelow : nearestWord numerator denominator < infinityWord := by
    rw [hlimit] at hword
    rw [infinityWord, hlimit]
    omega
  have hinfinity : infinityWord < signWeight := by decide
  rw [isFinite, nearest, magnitudeWord_ofMagnitude (hbelow.trans hinfinity), decide_eq_true_eq]
  exact hbelow

theorem log2_unitsPerOne : unitsPerOne.log2 = 1074 := by
  decide +kernel

/-- The magnitude of an integer of at most 1022 bits lies below the greatest binade. -/
theorem binade_natAbs_lt {n : Int} {bits : Nat} (hbits : bits ≤ 1022) (h : n.natAbs < 2 ^ bits) :
    binade (n.natAbs * unitsPerOne) 1 < 2045 := by
  have hunits : n.natAbs * unitsPerOne / 1 < 2 ^ (bits + (unitsPerOne.log2 + 1)) := by
    rw [Nat.div_one, Nat.pow_add]
    exact Nat.mul_lt_mul'' h Nat.lt_log2_self
  have hexponent : bits + (unitsPerOne.log2 + 1) = bits + 1023 + 52 := by
    rw [log2_unitsPerOne]
  rw [hexponent] at hunits
  have hbinade := binade_lt (Nat.succ_pos _) hunits
  omega

/-- An integer of at most 1022 bits converts to a finite number. -/
theorem isFinite_ofInt {n : Int} {bits : Nat} (hbits : bits ≤ 1022) (h : n.natAbs < 2 ^ bits) :
    (ofInt n).isFinite = true :=
  isFinite_nearest (binade_natAbs_lt hbits h) _

end Double

/-! ## Numbers of documents -/

/-- Every number of a document converts to a finite number. -/
theorem Number.isFinite_toDouble (number : Number) : number.toDouble.isFinite = true := by
  cases number with
  | double value finite => exact finite
  | integer value inRange =>
    have hword : value.natAbs < 2 ^ 65 := by omega
    exact Double.isFinite_ofInt (by decide) hword

end DuckTyping
