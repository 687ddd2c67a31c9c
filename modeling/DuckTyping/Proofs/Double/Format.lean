import DuckTyping.Proofs.Double.Rounding
import Mathlib.Tactic.Ring

/-!
# Binary floating-point formats

Single and double precision differ in the widths of their fields only.  What a word stands for is
therefore said once for all formats, in exact rational numbers: a sign, and a significand scaled by a
power of two.  Doubles are decoded as the words of their format, rounding gives the nearest number of
the format, and a single-precision word is widened to a word that is decoded alike.

Main definitions:

- `BinaryFormat`: the widths of the fields; `BinaryFormat.single`, `BinaryFormat.double`.
- `BinaryFormat.value`, `BinaryFormat.decode`: what a word stands for.
- `BinaryFormat.IsNearest`: a word is the correctly rounded one for a number.

Main results:

- `Double.decode_bits`: doubles are decoded as they are classified.
- `Double.isNearest_nearest`: rounding gives the nearest number.
- `Double.decode_nearest_scaled`: a scaled significand of at most 53 bits is kept exactly.
- `Double.decode_ofSingle`: widening keeps what a word stands for.
-/

namespace DuckTyping

/-! ## Words and what they stand for -/

/-- The factor that a sign bit stands for. -/
def signFactor (negative : Bool) : ℚ :=
  if negative then -1 else 1

/-- What a floating-point word stands for.  Zero has a sign. -/
inductive Datum where
  | finite (negative : Bool) (value : ℚ)
  | infinite (negative : Bool)
  | notANumber
deriving DecidableEq, Repr

/-- The widths of the fields of a binary floating-point word.  The fraction takes the low bits, the
exponent stands above it, and the sign bit above both. -/
structure BinaryFormat where
  exponentBits : ℕ
  fractionBits : ℕ

namespace BinaryFormat

/-- Words of 32 bits. -/
def single : BinaryFormat :=
  ⟨8, 23⟩

/-- Words of 64 bits. -/
def double : BinaryFormat :=
  ⟨11, 52⟩

variable (format : BinaryFormat)

/-- The number of bits of a word. -/
def width : ℕ :=
  1 + format.exponentBits + format.fractionBits

/-- The exponent field of the words that stand for no finite number. -/
def specialExponent : ℕ :=
  2 ^ format.exponentBits - 1

/-- What is subtracted from the exponent field to give the exponent of the leading bit. -/
def bias : ℕ :=
  2 ^ (format.exponentBits - 1) - 1

variable (word : ℕ)

/-- The sign bit. -/
def negative : Bool :=
  word.testBit (format.exponentBits + format.fractionBits)

/-- The exponent field. -/
def exponentField : ℕ :=
  word / 2 ^ format.fractionBits % 2 ^ format.exponentBits

/-- The fraction field. -/
def fraction : ℕ :=
  word % 2 ^ format.fractionBits

/-- Whether a word stands for a finite number. -/
def IsFinite : Prop :=
  format.exponentField word < format.specialExponent

instance : Decidable (format.IsFinite word) :=
  inferInstanceAs (Decidable (_ < _))

/-- The significand: the fraction, with the leading bit that a normal number does not store. -/
def significand : ℕ :=
  if format.exponentField word = 0 then format.fraction word
  else 2 ^ format.fractionBits + format.fraction word

/-- The exponent of the last bit of the significand.  Subnormal numbers have that of the least normal
ones. -/
def lastPlace : ℤ :=
  (max (format.exponentField word) 1 : ℕ) - (format.bias : ℤ) - (format.fractionBits : ℤ)

/-- The exact value of a finite number. -/
def value : ℚ :=
  signFactor (format.negative word) * format.significand word * 2 ^ format.lastPlace word

/-- What a word stands for. -/
def decode : Datum :=
  if format.IsFinite word then .finite (format.negative word) (format.value word)
  else if format.fraction word = 0 then .infinite (format.negative word)
  else .notANumber

/-- A word stands for the correctly rounded value of a number: it is finite, and preferred to every
finite word, where the even word is the one with an even significand. -/
structure IsNearest (target : ℚ) (word : ℕ) : Prop where
  finite : format.IsFinite word
  preferred : ∀ other < 2 ^ format.width, format.IsFinite other →
    Preferred target (format.value word) (format.significand word % 2 = 0) (format.value other)

end BinaryFormat

/-! ## Signs -/

theorem abs_signFactor (negative : Bool) : |signFactor negative| = 1 := by
  cases negative
  · exact abs_one
  · exact (abs_neg 1).trans abs_one

theorem signFactor_of_ne {negative other : Bool} (h : other ≠ negative) :
    signFactor other = -signFactor negative := by
  cases negative <;> cases other <;> simp_all [signFactor]

namespace Preferred

variable {target candidate other : ℚ} {even : Prop}

/-- Preference does not depend on a common sign. -/
theorem signed_alike (h : Preferred target candidate even other) (negative : Bool) :
    Preferred (signFactor negative * target) (signFactor negative * candidate) even
      (signFactor negative * other) := by
  have hdistance : ∀ x : ℚ,
      |signFactor negative * x - signFactor negative * target| = |x - target| := by
    intro x
    rw [← mul_sub, abs_mul, abs_signFactor, one_mul]
  rw [Preferred, hdistance, hdistance]
  exact h.imp_right fun htie => ⟨htie.1, htie.2.imp_left fun heq => by rw [heq]⟩

/-- A magnitude that is preferred to zero and to another is preferred under its sign to the other
under every sign: turning the sign of the other over takes it farther away, unless it is zero. -/
theorem signed (h : Preferred target candidate even other)
    (hzero : Preferred target candidate even 0) (htarget : 0 ≤ target) (hother : 0 ≤ other)
    (negative negativeOther : Bool) :
    Preferred (signFactor negative * target) (signFactor negative * candidate) even
      (signFactor negativeOther * other) := by
  rcases eq_or_ne negativeOther negative with rfl | hsign
  · exact h.signed_alike negativeOther
  rcases hother.eq_or_lt with rfl | hpos
  · rw [mul_zero, ← mul_zero (signFactor negative)]
    exact h.signed_alike negative
  have hopposite : |signFactor negativeOther * other - signFactor negative * target| =
      other + target := by
    rw [signFactor_of_ne hsign, neg_mul, ← neg_add', ← mul_add, abs_neg, abs_mul, abs_signFactor,
      one_mul, abs_of_nonneg (add_nonneg hother htarget)]
  have hcandidate : |signFactor negative * candidate - signFactor negative * target| =
      |candidate - target| := by
    rw [← mul_sub, abs_mul, abs_signFactor, one_mul]
  left
  rw [hopposite, hcandidate]
  rcases htarget.eq_or_lt with rfl | htarget
  · rw [hzero.eq_target, sub_zero, abs_zero]
    exact add_pos_of_pos_of_nonneg hpos le_rfl
  · refine h.le.trans_lt ?_
    rw [abs_lt]
    constructor <;> linarith

end Preferred

/-! ## Doubles as words of their format -/

namespace Double

open BinaryFormat

variable (x : Double)

theorem bits_lt : x.bits.toNat < 18446744073709551616 :=
  x.bits.toNat_lt

theorem negative_bits : double.negative x.bits.toNat = x.negative := by
  have hbits := x.bits_lt
  have hweight : signWeight = 9223372036854775808 := rfl
  rw [BinaryFormat.negative, Nat.testBit_eq_decide_div_mod_eq, Double.negative, hweight,
    decide_eq_decide]
  change x.bits.toNat / 9223372036854775808 % 2 = 1 ↔ _
  omega

theorem exponentField_bits : double.exponentField x.bits.toNat = x.exponentField := by
  have hweight : signWeight = 9223372036854775808 := rfl
  have hlimit : fractionLimit = 4503599627370496 := rfl
  rw [Double.exponentField, magnitudeWord, hweight, hlimit]
  change x.bits.toNat / 4503599627370496 % 2048 = _
  omega

theorem fraction_bits : double.fraction x.bits.toNat = x.fraction := by
  have hweight : signWeight = 9223372036854775808 := rfl
  have hlimit : fractionLimit = 4503599627370496 := rfl
  rw [Double.fraction, magnitudeWord, hweight, hlimit]
  change x.bits.toNat % 4503599627370496 = _
  omega

theorem significand_bits : double.significand x.bits.toNat = x.significand := by
  rw [BinaryFormat.significand, exponentField_bits, fraction_bits]
  rfl

theorem isFinite_bits : double.IsFinite x.bits.toNat ↔ x.isFinite = true := by
  have hlimit : fractionLimit = 4503599627370496 := rfl
  rw [BinaryFormat.IsFinite, exponentField_bits, isFinite, decide_eq_true_iff,
    Double.exponentField, infinityWord, hlimit]
  change _ < 2047 ↔ _
  omega

theorem unitsPerOne_eq : unitsPerOne = 2 ^ 1074 := by
  decide +kernel

theorem cast_unitsPerOne : (unitsPerOne : ℚ) = 2 ^ (1074 : ℤ) := by
  rw [unitsPerOne_eq, Nat.cast_pow]
  exact (zpow_natCast 2 1074).symm

theorem cast_unitsPerOne_pos : (0 : ℚ) < unitsPerOne := by
  rw [cast_unitsPerOne]
  exact zpow_pos two_pos _

/-- The units of the exact value are those of the last place of the least numbers. -/
theorem two_zpow_eq {exponent : ℤ} {scale : ℕ} (h : exponent = scale - 1074) :
    (2 : ℚ) ^ exponent = 2 ^ scale / unitsPerOne := by
  rw [h, zpow_sub₀ two_ne_zero, zpow_natCast, cast_unitsPerOne]

theorem toRat_eq : x.toRat = signFactor x.negative * (x.units / unitsPerOne) := by
  rw [toRat, signFactor]
  split
  · push_cast
    ring
  · push_cast
    ring

/-- The value of the word is the exact value of the number. -/
theorem value_bits : double.value x.bits.toNat = x.toRat := by
  have hbias : double.bias = 1023 := rfl
  have hfraction : double.fractionBits = 52 := rfl
  have hplace : double.lastPlace x.bits.toNat = (x.scale : ℤ) - 1074 := by
    rw [lastPlace, exponentField_bits, scale, hbias, hfraction]
    omega
  have hunits : (x.units : ℚ) = x.significand * 2 ^ x.scale := by
    rw [units, Nat.pow_eq, Nat.cast_mul, Nat.cast_pow, Nat.cast_ofNat]
  rw [value, negative_bits, significand_bits, two_zpow_eq hplace, toRat_eq, hunits]
  ring

/-- Doubles are decoded as they are classified. -/
theorem decode_bits : double.decode x.bits.toNat =
    if x.isFinite then .finite x.negative x.toRat
    else if x.isInfinite then .infinite x.negative else .notANumber := by
  have hlimit : fractionLimit = 4503599627370496 := rfl
  have hweight : signWeight = 9223372036854775808 := rfl
  rw [decode, fraction_bits, negative_bits, value_bits]
  by_cases hfinite : x.isFinite = true
  · rw [if_pos (x.isFinite_bits.mpr hfinite), if_pos hfinite]
  · rw [if_neg (mt x.isFinite_bits.mp hfinite), if_neg hfinite]
    refine if_congr ?_ rfl rfl
    have hword : x.magnitudeWord < signWeight := Nat.mod_lt _ (by decide)
    rw [isFinite, decide_eq_true_iff, infinityWord, hlimit] at hfinite
    rw [isInfinite, decide_eq_true_iff, infinityWord, Double.fraction, hlimit]
    omega

/-! ## Rounding in the format -/

section Rounding

variable {numerator denominator : ℕ}

theorem nearestWord_lt_signWeight (numerator denominator : ℕ) :
    nearestWord numerator denominator < signWeight :=
  (Nat.min_le_right _ _).trans_lt (by decide)

theorem magnitudeWord_nearest (negative : Bool) (numerator denominator : ℕ) :
    (nearest negative numerator denominator).magnitudeWord = nearestWord numerator denominator :=
  magnitudeWord_ofMagnitude (nearestWord_lt_signWeight _ _) negative

theorem negative_nearest (negative : Bool) (numerator denominator : ℕ) :
    (nearest negative numerator denominator).negative = negative :=
  negative_ofMagnitude (nearestWord_lt_signWeight _ _) negative

theorem nearestWord_lt_infinityWord (h : binade numerator denominator < 2045) :
    nearestWord numerator denominator < infinityWord := by
  have hfinite := isFinite_nearest h false
  rw [isFinite, magnitudeWord_nearest, decide_eq_true_iff] at hfinite
  exact hfinite

/-- The number that a magnitude below the greatest binade is rounded to is the nearest one of the
format, under either sign. -/
theorem isNearest_nearest (hpos : 0 < denominator) (h : binade numerator denominator < 2045)
    (negative : Bool) :
    double.IsNearest (signFactor negative * (numerator / denominator / unitsPerOne))
      (nearest negative numerator denominator).bits.toNat where
  finite := (isFinite_bits _).mpr (isFinite_nearest h negative)
  preferred := by
    intro other hother _
    have hword := nearestWord_lt_infinityWord h
    have hbits : (⟨UInt64.ofNat other⟩ : Double).bits.toNat = other :=
      UInt64.toNat_ofNat_of_lt hother
    have hpreferred : ∀ word : ℕ,
        Preferred (numerator / denominator / unitsPerOne)
          (wordUnits (nearestWord numerator denominator) / unitsPerOne)
          (nearestWord numerator denominator % 2 = 0) (wordUnits word / unitsPerOne) := by
      intro word
      simp only [div_eq_mul_inv _ (unitsPerOne : ℚ)]
      exact (preferred_nearestWord hpos hword word).scale (inv_pos.mpr cast_unitsPerOne_pos)
    have hzero : Preferred (numerator / denominator / unitsPerOne)
        (wordUnits (nearestWord numerator denominator) / unitsPerOne)
        (nearestWord numerator denominator % 2 = 0) 0 := by
      have hleast := hpreferred 0
      rwa [show wordUnits 0 = 0 from rfl, Nat.cast_zero, zero_div] at hleast
    rw [← hbits, value_bits, value_bits, significand_bits, significand_mod_two, toRat_eq, toRat_eq,
      units_eq_wordUnits, units_eq_wordUnits, magnitudeWord_nearest, negative_nearest]
    have htarget : (0 : ℚ) ≤ numerator / denominator / unitsPerOne :=
      div_nonneg (div_nonneg (Nat.cast_nonneg _) (Nat.cast_nonneg _)) (Nat.cast_nonneg _)
    exact (hpreferred _).signed hzero htarget (div_nonneg (Nat.cast_nonneg _) (Nat.cast_nonneg _))
      _ _

/-- A significand of at most 53 bits, or the next greater one, is kept exactly when it is scaled. -/
theorem decode_nearest_scaled {significand scale : ℕ} (hbits : significand ≤ 2 ^ 53)
    (h : binade (significand * 2 ^ scale) 1 < 2045) (negative : Bool) :
    double.decode (nearest negative (significand * 2 ^ scale) 1).bits.toNat =
      .finite negative (signFactor negative * significand * 2 ^ ((scale : ℤ) - 1074)) := by
  have hexact := wordUnits_nearestWord_of_dvd (nearestWord_lt_infinityWord h)
    (two_pow_binade_dvd hbits scale)
  rw [decode_bits, if_pos (isFinite_nearest h negative), negative_nearest, toRat_eq,
    negative_nearest, units_eq_wordUnits, magnitudeWord_nearest, hexact, two_zpow_eq rfl]
  push_cast
  rw [mul_assoc, mul_div_assoc]

end Rounding

/-! ## Widening -/

/-- A finite single-precision number is rounded in the units of doubles, of which `2 ^ 925` make one
unit of the least single-precision number. -/
theorem ofSingle_eq (word : UInt32) :
    ofSingle word =
      if single.IsFinite word.toNat then
        nearest (single.negative word.toNat)
          (single.significand word.toNat * 2 ^ (single.exponentField word.toNat - 1 + 925)) 1
      else if single.fraction word.toNat = 0 then infinity (single.negative word.toNat) else nan := by
  have hword : word.toNat < 4294967296 := word.toNat_lt
  have hnegative : decide (Nat.pow 2 31 ≤ word.toNat) = single.negative word.toNat := by
    rw [BinaryFormat.negative, Nat.testBit_eq_decide_div_mod_eq, decide_eq_decide]
    change 2147483648 ≤ _ ↔ word.toNat / 2147483648 % 2 = 1
    omega
  have hexponent : word.toNat % Nat.pow 2 31 / Nat.pow 2 23 = single.exponentField word.toNat := by
    change word.toNat % 2147483648 / 8388608 = word.toNat / 8388608 % 256
    omega
  have hfraction : word.toNat % Nat.pow 2 23 = single.fraction word.toNat :=
    rfl
  have hfield : single.exponentField word.toNat < 256 :=
    Nat.mod_lt _ (by decide)
  have hspecial : single.IsFinite word.toNat ↔ ¬single.exponentField word.toNat = 255 := by
    change single.exponentField word.toNat < 255 ↔ _
    omega
  have hunits : Nat.pow 2 925 = 2 ^ 925 := by decide +kernel
  rw [ofSingle, hnegative, hexponent, hfraction, hunits, BinaryFormat.significand]
  by_cases hfinite : single.IsFinite word.toNat
  · rw [if_pos hfinite, if_neg (hspecial.mp hfinite)]
    by_cases hsubnormal : single.exponentField word.toNat = 0
    · rw [if_pos hsubnormal, if_pos hsubnormal, hsubnormal, Nat.zero_sub, Nat.zero_add]
    · rw [if_neg hsubnormal, if_neg hsubnormal, Nat.mul_assoc, Nat.pow_add]
      rfl
  · rw [if_neg hfinite, if_pos (not_not.mp (mt hspecial.mpr hfinite))]

theorem decode_infinity (negative : Bool) :
    double.decode (infinity negative).bits.toNat = .infinite negative := by
  rw [decode_bits]
  cases negative <;> rfl

theorem decode_nan : double.decode nan.bits.toNat = .notANumber := by
  rw [decode_bits]
  rfl

/-- The significand of a single-precision number has at most 24 bits. -/
theorem significand_single_lt (word : ℕ) : single.significand word < 2 ^ 24 := by
  have hfraction : single.fraction word < 8388608 := Nat.mod_lt _ (by decide)
  have hleading : 2 ^ single.fractionBits = 8388608 := rfl
  rw [BinaryFormat.significand, hleading]
  split
  · omega
  · omega

/-- Widening a single-precision word keeps what it stands for: the exact value and the sign of a
finite number, the sign of an infinity, and that a word is not a number. -/
theorem decode_ofSingle (word : UInt32) :
    double.decode (ofSingle word).bits.toNat = single.decode word.toNat := by
  rw [ofSingle_eq]
  by_cases hfinite : single.IsFinite word.toNat
  · have hbits := significand_single_lt word.toNat
    have hexponent : single.exponentField word.toNat < 255 := hfinite
    have hbinade := binade_scaled_le (hbits.trans (by decide))
      (single.exponentField word.toNat - 1 + 925)
    have hplace : single.lastPlace word.toNat =
        ((single.exponentField word.toNat - 1 + 925 : ℕ) : ℤ) - 1074 := by
      have hbias : single.bias = 127 := rfl
      have hfraction : single.fractionBits = 23 := rfl
      rw [lastPlace, hbias, hfraction]
      omega
    rw [if_pos hfinite, decode_nearest_scaled (hbits.le.trans (by decide)) (by omega), decode,
      if_pos hfinite, value, hplace]
  · have hspecial : single.decode word.toNat =
        if single.fraction word.toNat = 0 then .infinite (single.negative word.toNat)
        else .notANumber :=
      if_neg hfinite
    rw [if_neg hfinite, hspecial]
    split
    · exact decode_infinity _
    · exact decode_nan

end Double

end DuckTyping
