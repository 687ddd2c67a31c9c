import DuckTyping.Proofs.Double.Finite
import Mathlib.Order.Monotone.Basic
import Mathlib.Tactic.Ring

/-!
# Words in the order of magnitudes

Without its sign bit, the word of a finite number counts the magnitudes from zero on: the next word
stands for the next magnitude.  Within a binade the distance from one to the next is the same, and at
the end of a binade the count runs over into the exponent field.

Main definitions:

- `Double.wordUnits`: the magnitude that a word stands for.

Main results:

- `Double.wordUnits_scaled`: the word of a scaled significand, also of one that is carried over.
- `Double.strictMono_wordUnits`: greater words stand for greater magnitudes.
- `Double.significand_mod_two`: even significands are told by the word.
-/

namespace DuckTyping
namespace Double

theorem fractionLimit_pos : 0 < fractionLimit := by
  decide

/-- The magnitude that a word without sign bit stands for, in units of `2 ^ (-1074)`. -/
def wordUnits (word : Nat) : Nat :=
  (if word / fractionLimit = 0 then word % fractionLimit
    else fractionLimit + word % fractionLimit) * 2 ^ (word / fractionLimit - 1)

theorem units_eq_wordUnits (x : Double) : x.units = wordUnits x.magnitudeWord :=
  rfl

/-! ## Scaled significands -/

section Scaled

variable {scale significand : Nat}

/-- A significand of at most 53 bits is added to the share of its binade.  The significand that
needs one bit more is carried over and stands for the least magnitude of the next binade. -/
theorem wordUnits_scaled (hlow : 0 < scale → fractionLimit ≤ significand)
    (hhigh : significand ≤ 2 * fractionLimit) :
    wordUnits (scale * fractionLimit + significand) = significand * 2 ^ scale := by
  have hpos := fractionLimit_pos
  have hdiv : (scale * fractionLimit + significand) / fractionLimit =
      scale + significand / fractionLimit := by
    rw [Nat.mul_comm, Nat.mul_add_div hpos]
  have hmod : (scale * fractionLimit + significand) % fractionLimit =
      significand % fractionLimit :=
    Nat.mul_add_mod' scale fractionLimit significand
  rw [wordUnits, hdiv, hmod]
  rcases Nat.lt_or_ge significand fractionLimit with hsmall | hnormal
  · have hscale : scale = 0 := by
      by_contra hne
      have := hlow (Nat.pos_of_ne_zero hne)
      omega
    rw [hscale, Nat.div_eq_of_lt hsmall, Nat.mod_eq_of_lt hsmall, if_pos rfl]
  · rcases Nat.lt_or_eq_of_le hhigh with hbelow | hcarry
    · have hone : significand / fractionLimit = 1 :=
        Nat.div_eq_of_lt_le (by omega) (by omega)
      have hfraction : fractionLimit + significand % fractionLimit = significand := by
        have := Nat.div_add_mod significand fractionLimit
        rw [hone] at this
        omega
      rw [hone, if_neg (Nat.succ_ne_zero scale), hfraction, Nat.add_sub_cancel]
    · rw [hcarry, Nat.mul_div_cancel _ hpos, Nat.mul_mod_left, if_neg (Nat.succ_ne_zero _)]
      rw [show scale + 2 - 1 = scale + 1 by omega, Nat.pow_succ]
      ring

/-- Every word is that of a scaled significand of at most 53 bits. -/
theorem exists_scaled (word : Nat) :
    ∃ scale significand, word = scale * fractionLimit + significand ∧
      (0 < scale → fractionLimit ≤ significand) ∧ significand < 2 * fractionLimit := by
  have hlimit : fractionLimit = 4503599627370496 := rfl
  refine ⟨word / fractionLimit - 1, word - (word / fractionLimit - 1) * fractionLimit, ?_, ?_, ?_⟩
  all_goals
    rw [hlimit]
    omega

end Scaled

/-- Greater words stand for greater magnitudes. -/
theorem strictMono_wordUnits : StrictMono wordUnits := by
  apply strictMono_nat_of_lt_succ
  intro word
  obtain ⟨scale, significand, rfl, hlow, hhigh⟩ := exists_scaled word
  rw [Nat.add_assoc, wordUnits_scaled hlow hhigh.le,
    wordUnits_scaled (fun hscale => (hlow hscale).trans (Nat.le_succ _)) hhigh]
  exact Nat.mul_lt_mul_of_pos_right (Nat.lt_succ_self significand) (Nat.two_pow_pos scale)

/-! ## Numbers by their words -/

/-- The significand is even exactly when the word is. -/
theorem significand_mod_two (x : Double) : x.significand % 2 = x.magnitudeWord % 2 := by
  have hlimit : fractionLimit = 4503599627370496 := rfl
  rw [significand, fraction, hlimit]
  split
  · omega
  · omega

/-- Where the sign bit of a word stands. -/
theorem negative_ofMagnitude {word : Nat} (h : word < signWeight) (negative : Bool) :
    (ofMagnitude negative word).negative = negative := by
  have hweight : signWeight = 9223372036854775808 := rfl
  rw [hweight] at h
  rw [Double.negative, ofMagnitude, UInt64.toNat_ofNat', hweight]
  cases negative with
  | false =>
    rw [decide_eq_false_iff_not]
    simp only [Bool.false_eq_true, if_false]
    omega
  | true =>
    rw [decide_eq_true_iff]
    simp only [if_true]
    omega

end Double
end DuckTyping
