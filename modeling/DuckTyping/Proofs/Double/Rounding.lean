import DuckTyping.Proofs.Double.Words
import Mathlib.Algebra.Order.Field.Rat
import Mathlib.Data.Rat.Cast.Order
import Mathlib.Tactic.Linarith
import Mathlib.Tactic.NormNum
import Mathlib.Tactic.Positivity

/-!
# Rounding to the nearest magnitude

Rounding prefers the nearer of two candidates, and of two that are equally near the even one.  A
fraction is rounded to an integer in this way, and a magnitude is rounded to a word by rounding the
significand of its binade.  The multiples of the last place of the binade that lie next to the
magnitude are themselves magnitudes of words, and all other magnitudes lie beyond them, also those of
other binades, so that what is preferred to the two neighbours is preferred to every word.

Main definitions:

- `Preferred`: rounding chooses one candidate rather than another.

Main results:

- `Double.preferred_roundHalfEven`: a fraction is rounded to the preferred integer.
- `Double.preferred_nearestWord`: a magnitude is rounded to the preferred word.
- `Double.wordUnits_nearestWord_of_dvd`, `Double.two_pow_binade_dvd`: a significand of at most 53 bits
  that is scaled by a power of two is not changed by rounding.
-/

namespace DuckTyping

/-! ## Preference -/

/-- Rounding a target to a candidate is preferred to rounding it to another: the candidate is nearer
to the target, or it is as near, and then it is the same number or it is the even one. -/
def Preferred (target candidate : ℚ) (even : Prop) (other : ℚ) : Prop :=
  |candidate - target| < |other - target| ∨
    |candidate - target| = |other - target| ∧ (candidate = other ∨ even)

namespace Preferred

variable {target candidate other middle : ℚ} {even : Prop}

theorem le (h : Preferred target candidate even other) :
    |candidate - target| ≤ |other - target| := by
  rcases h with hnearer | ⟨htie, -⟩
  · exact hnearer.le
  · exact htie.le

/-- A target that is a candidate is rounded to itself. -/
theorem eq_target (h : Preferred target candidate even target) : candidate = target := by
  have hle := h.le
  rw [sub_self, abs_zero, abs_nonpos_iff, sub_eq_zero] at hle
  exact hle

/-- What is preferred to a candidate is preferred to all that lie beyond it. -/
theorem of_beyond (h : Preferred target candidate even middle)
    (hbeyond : other ≤ middle ∧ middle ≤ target ∨ target ≤ middle ∧ middle ≤ other) :
    Preferred target candidate even other := by
  have hmiddle : |middle - target| < |other - target| ∨ middle = other := by
    rcases hbeyond with ⟨hother, htarget⟩ | ⟨htarget, hother⟩
    · rw [abs_of_nonpos (by linarith), abs_of_nonpos (by linarith)]
      rcases hother.lt_or_eq with hlt | heq
      · left
        linarith
      · exact Or.inr heq.symm
    · rw [abs_of_nonneg (by linarith), abs_of_nonneg (by linarith)]
      rcases hother.lt_or_eq with hlt | heq
      · left
        linarith
      · exact Or.inr heq
  rcases hmiddle with hfarther | rfl
  · exact Or.inl (h.le.trans_lt hfarther)
  · exact h

/-- Preference does not depend on the unit of measurement. -/
theorem scale (h : Preferred target candidate even other) {unit : ℚ} (hunit : 0 < unit) :
    Preferred (target * unit) (candidate * unit) even (other * unit) := by
  have hdistance : ∀ x : ℚ, |x * unit - target * unit| = |x - target| * unit := by
    intro x
    rw [← sub_mul, abs_mul, abs_of_pos hunit]
  rw [Preferred, hdistance, hdistance]
  rcases h with hnearer | ⟨htie, hchoice⟩
  · exact Or.inl (mul_lt_mul_of_pos_right hnearer hunit)
  · exact Or.inr ⟨by rw [htie], hchoice.imp_left fun heq => by rw [heq]⟩

/-- Greater targets are not rounded to smaller candidates. -/
theorem le_of_lt {first second : ℚ} {evenFirst evenSecond : Prop} {lesser greater : ℚ}
    (hfirst : Preferred lesser first evenFirst second)
    (hsecond : Preferred greater second evenSecond first) (hlt : lesser < greater) :
    first ≤ second := by
  by_contra hgt
  rw [not_le] at hgt
  have hlesser := sq_le_sq.mpr hfirst.le
  have hgreater := sq_le_sq.mpr hsecond.le
  -- The squares of the four distances leave this product, which would not be positive.
  have hproduct := mul_pos (sub_pos.mpr hgt) (sub_pos.mpr hlt)
  linarith

end Preferred

namespace Double

variable {numerator denominator : ℕ}

/-! ## Rounding to an integer -/

/-- A fraction is its whole part and what is left of it. -/
theorem cast_div_eq (numerator : ℕ) (h : 0 < denominator) :
    (numerator : ℚ) / denominator =
      (numerator / denominator : ℕ) + ((numerator % denominator : ℕ) : ℚ) / denominator := by
  have hne : (denominator : ℚ) ≠ 0 := (Nat.cast_pos.mpr h).ne'
  have hsum : (denominator : ℚ) * (numerator / denominator : ℕ) + (numerator % denominator : ℕ) =
      numerator := by
    exact_mod_cast Nat.div_add_mod numerator denominator
  rw [div_eq_iff hne, add_mul, div_mul_cancel₀ _ hne, mul_comm, hsum]

/-- The integer that a fraction is rounded to lies less than one half away, or it is even and lies
one half away. -/
theorem roundHalfEven_spec (numerator : ℕ) (h : 0 < denominator) :
    |(roundHalfEven numerator denominator : ℚ) - numerator / denominator| < 1 / 2 ∨
      |(roundHalfEven numerator denominator : ℚ) - numerator / denominator| = 1 / 2 ∧
        roundHalfEven numerator denominator % 2 = 0 := by
  have hpos : (0 : ℚ) < denominator := Nat.cast_pos.mpr h
  have hvalue := cast_div_eq numerator h
  have hrest : ((numerator % denominator : ℕ) : ℚ) < denominator := by
    exact_mod_cast Nat.mod_lt numerator h
  unfold roundHalfEven
  dsimp only
  generalize numerator / denominator = quotient at *
  generalize numerator % denominator = rest at *
  have hnonneg : (0 : ℚ) ≤ rest / denominator := by positivity
  have hless : (rest : ℚ) / denominator < 1 := (div_lt_one hpos).mpr hrest
  rw [hvalue]
  -- What is left is less than one half, more, or as much.
  split
  next hlow =>
    have hlow' : (2 * rest : ℚ) < denominator := by exact_mod_cast hlow
    have hhalf : (rest : ℚ) / denominator < 1 / 2 := by
      rw [div_lt_iff₀ hpos]
      linarith
    left
    rw [abs_lt]
    constructor <;> linarith
  next hlow =>
    split
    next hhigh =>
      have hhigh' : (denominator : ℚ) < 2 * rest := by exact_mod_cast hhigh
      have hhalf : 1 / 2 < (rest : ℚ) / denominator := by
        rw [lt_div_iff₀ hpos]
        linarith
      left
      push_cast
      rw [abs_lt]
      constructor <;> linarith
    next hhigh =>
      have htie : (2 * rest : ℚ) = denominator := by
        exact_mod_cast le_antisymm (Nat.le_of_not_lt hhigh) (Nat.le_of_not_lt hlow)
      have hhalf : (rest : ℚ) / denominator = 1 / 2 := by
        rw [div_eq_iff hpos.ne']
        linarith
      right
      refine ⟨?_, by omega⟩
      rw [hhalf]
      rcases Nat.mod_two_eq_zero_or_one quotient with heven | hodd
      · rw [heven]
        norm_num
      · rw [hodd]
        norm_num

/-- A fraction is rounded to the preferred integer. -/
theorem preferred_roundHalfEven (numerator : ℕ) (h : 0 < denominator) (k : ℕ) :
    Preferred (numerator / denominator) (roundHalfEven numerator denominator)
      (roundHalfEven numerator denominator % 2 = 0) k := by
  have hspec := roundHalfEven_spec numerator h
  generalize roundHalfEven numerator denominator = rounded at *
  generalize (numerator : ℚ) / denominator = target at *
  rcases eq_or_ne rounded k with rfl | hne
  · exact Or.inr ⟨rfl, Or.inl rfl⟩
  have hapart : (1 : ℚ) ≤ |(k : ℚ) - rounded| := by
    have hint : 1 ≤ |(k : ℤ) - rounded| := Int.one_le_abs (by omega)
    exact_mod_cast hint
  have htriangle : |(k : ℚ) - rounded| ≤ |(k : ℚ) - target| + |(rounded : ℚ) - target| := by
    rw [abs_sub_comm (rounded : ℚ)]
    exact abs_sub_le _ _ _
  rcases hspec with hnear | ⟨hhalf, heven⟩
  · left
    linarith
  · have hfar : (1 : ℚ) / 2 ≤ |(k : ℚ) - target| := by linarith
    rcases hfar.lt_or_eq with hlt | heq
    · left
      linarith
    · exact Or.inr ⟨by linarith, Or.inr heven⟩

theorem le_roundHalfEven (numerator denominator : ℕ) :
    numerator / denominator ≤ roundHalfEven numerator denominator := by
  unfold roundHalfEven
  dsimp only
  split
  · exact Nat.le_refl _
  · split
    · exact Nat.le_succ _
    · exact Nat.le_add_right _ _

/-- A fraction that is whole is not changed by rounding. -/
theorem roundHalfEven_mul (h : 0 < denominator) (quotient : ℕ) :
    roundHalfEven (quotient * denominator) denominator = quotient := by
  rw [roundHalfEven, Nat.mul_div_cancel _ h, Nat.mul_mod_left]
  exact if_pos (by omega)

/-! ## Rounding to a word -/

/-- The significand of a magnitude in its binade, before rounding, is that of a normal number unless
the binade is the least. -/
theorem le_div_binade (hshift : 0 < binade numerator denominator) :
    fractionLimit ≤ numerator / (denominator * 2 ^ binade numerator denominator) := by
  have hlog : binade numerator denominator = (numerator / denominator).log2 - 52 := rfl
  have hne : numerator / denominator ≠ 0 := by
    intro hzero
    rw [hlog, hzero, Nat.log2_zero] at hshift
    omega
  rw [← Nat.div_div_eq_div_mul, Nat.le_div_iff_mul_le (Nat.two_pow_pos _)]
  calc fractionLimit * 2 ^ binade numerator denominator
      = 2 ^ (52 + binade numerator denominator) := by rw [Nat.pow_add]; rfl
    _ = 2 ^ (numerator / denominator).log2 := by congr 1; omega
    _ ≤ numerator / denominator := Nat.log2_self_le hne

/-- The word of a magnitude is that of its rounded significand. -/
theorem nearestWord_eq (h : nearestWord numerator denominator < infinityWord) :
    nearestWord numerator denominator =
      binade numerator denominator * fractionLimit +
        roundHalfEven numerator (denominator * 2 ^ binade numerator denominator) := by
  rw [nearestWord] at h ⊢
  exact Nat.min_eq_left (by omega)

/-- The magnitude of the word is the rounded significand, scaled by the binade. -/
theorem wordUnits_nearestWord (h : nearestWord numerator denominator < infinityWord) :
    wordUnits (nearestWord numerator denominator) =
      roundHalfEven numerator (denominator * 2 ^ binade numerator denominator) *
        2 ^ binade numerator denominator := by
  have hbits := div_binade_lt numerator denominator
  have hround := roundHalfEven_le numerator (denominator * 2 ^ binade numerator denominator)
  have hlimit : 2 ^ 53 = 2 * fractionLimit := rfl
  rw [nearestWord_eq h]
  apply wordUnits_scaled
  · intro hshift
    exact (le_div_binade hshift).trans (le_roundHalfEven _ _)
  · omega

/-- The magnitude of every word lies beyond a multiple of the last place of the binade. -/
theorem exists_multiple_beyond (numerator : ℕ) (h : 0 < denominator) (word : ℕ) :
    ∃ k : ℕ,
      (wordUnits word : ℚ) ≤ k * 2 ^ binade numerator denominator ∧
          (k * 2 ^ binade numerator denominator : ℚ) ≤ numerator / denominator ∨
        (numerator / denominator : ℚ) ≤ k * 2 ^ binade numerator denominator ∧
          (k * 2 ^ binade numerator denominator : ℚ) ≤ wordUnits word := by
  have hpos : (0 : ℚ) < denominator := Nat.cast_pos.mpr h
  have hbits := div_binade_lt numerator denominator
  have hnormal : 0 < binade numerator denominator →
      fractionLimit ≤ numerator / (denominator * 2 ^ binade numerator denominator) :=
    le_div_binade
  have hlimit : 2 ^ 53 = 2 * fractionLimit := rfl
  have hunit : 0 < denominator * 2 ^ binade numerator denominator :=
    Nat.mul_pos h (Nat.two_pow_pos _)
  have hfloor := Nat.div_mul_le_self numerator (denominator * 2 ^ binade numerator denominator)
  have hceil := Nat.lt_mul_div_succ numerator hunit
  generalize numerator / (denominator * 2 ^ binade numerator denominator) = quotient at *
  generalize binade numerator denominator = shift at *
  -- Both neighbours of the magnitude among the multiples are magnitudes of words.
  have hbelow : wordUnits (shift * fractionLimit + quotient) = quotient * 2 ^ shift :=
    wordUnits_scaled hnormal (by omega)
  have habove : wordUnits (shift * fractionLimit + (quotient + 1)) = (quotient + 1) * 2 ^ shift :=
    wordUnits_scaled (fun hshift => (hnormal hshift).trans (Nat.le_succ _)) (by omega)
  rcases Nat.lt_or_ge (shift * fractionLimit + quotient) word with hlt | hle
  · refine ⟨quotient + 1, Or.inr ⟨?_, ?_⟩⟩
    · rw [div_le_iff₀ hpos]
      have hnext : numerator ≤ (quotient + 1) * 2 ^ shift * denominator := by
        rw [Nat.mul_assoc, Nat.mul_comm (2 ^ shift), Nat.mul_comm (quotient + 1)]
        exact hceil.le
      exact_mod_cast hnext
    · have hmagnitude := strictMono_wordUnits.monotone (Nat.succ_le_of_lt hlt)
      rw [Nat.succ_eq_add_one, Nat.add_assoc, habove] at hmagnitude
      exact_mod_cast hmagnitude
  · refine ⟨quotient, Or.inl ⟨?_, ?_⟩⟩
    · have hmagnitude := strictMono_wordUnits.monotone hle
      rw [hbelow] at hmagnitude
      exact_mod_cast hmagnitude
    · rw [le_div_iff₀ hpos]
      have hlast : quotient * 2 ^ shift * denominator ≤ numerator := by
        rw [Nat.mul_assoc, Nat.mul_comm (2 ^ shift)]
        exact hfloor
      exact_mod_cast hlast

/-- A word is even exactly when its rounded significand is. -/
theorem nearestWord_mod_two (h : nearestWord numerator denominator < infinityWord) :
    nearestWord numerator denominator % 2 =
      roundHalfEven numerator (denominator * 2 ^ binade numerator denominator) % 2 := by
  have hlimit : fractionLimit = 4503599627370496 := rfl
  rw [nearestWord_eq h, hlimit]
  omega

/-- A magnitude is rounded to the preferred word. -/
theorem preferred_nearestWord (hpos : 0 < denominator)
    (h : nearestWord numerator denominator < infinityWord) (word : ℕ) :
    Preferred (numerator / denominator) (wordUnits (nearestWord numerator denominator))
      (nearestWord numerator denominator % 2 = 0) (wordUnits word) := by
  obtain ⟨k, hbeyond⟩ := exists_multiple_beyond numerator hpos word
  refine Preferred.of_beyond ?_ hbeyond
  have hinteger := preferred_roundHalfEven numerator
    (Nat.mul_pos hpos (Nat.two_pow_pos (binade numerator denominator))) k
  have hunit : (0 : ℚ) < 2 ^ binade numerator denominator := by positivity
  have hscaled := hinteger.scale hunit
  rw [wordUnits_nearestWord h, nearestWord_mod_two h]
  push_cast at hscaled ⊢
  rw [div_mul_eq_div_div, div_mul_cancel₀ _ hunit.ne'] at hscaled
  exact hscaled

/-! ## Exact magnitudes -/

/-- A magnitude that is a multiple of the last place of its binade is not changed by rounding. -/
theorem wordUnits_nearestWord_of_dvd {magnitude : ℕ} (h : nearestWord magnitude 1 < infinityWord)
    (hdvd : 2 ^ binade magnitude 1 ∣ magnitude) :
    wordUnits (nearestWord magnitude 1) = magnitude := by
  obtain ⟨quotient, hquotient⟩ := hdvd
  rw [wordUnits_nearestWord h, Nat.one_mul]
  rw [Nat.mul_comm] at hquotient
  generalize binade magnitude 1 = shift at *
  rw [hquotient, roundHalfEven_mul (Nat.two_pow_pos shift)]

/-- The binade of a significand of at most 53 bits is not above the power of two that scales it. -/
theorem binade_scaled_le {significand : ℕ} (h : significand < 2 ^ 53) (scale : ℕ) :
    binade (significand * 2 ^ scale) 1 ≤ scale := by
  apply Nat.le_of_lt_succ
  apply binade_lt (Nat.succ_pos scale)
  rw [Nat.div_one, show scale.succ + 52 = 53 + scale by omega, Nat.pow_add]
  exact Nat.mul_lt_mul_of_pos_right h (Nat.two_pow_pos scale)

/-- A scaled significand of at most 53 bits, or the next greater one, is a multiple of the last place
of its binade. -/
theorem two_pow_binade_dvd {significand : ℕ} (h : significand ≤ 2 ^ 53) (scale : ℕ) :
    2 ^ binade (significand * 2 ^ scale) 1 ∣ significand * 2 ^ scale := by
  have hbelow : ∀ significand scale : ℕ, significand < 2 ^ 53 →
      2 ^ binade (significand * 2 ^ scale) 1 ∣ significand * 2 ^ scale := by
    intro significand scale hlt
    exact Nat.dvd_mul_left_of_dvd (Nat.pow_dvd_pow 2 (binade_scaled_le hlt scale)) significand
  rcases Nat.lt_or_eq_of_le h with hlt | rfl
  · exact hbelow significand scale hlt
  · rw [show 2 ^ 53 * 2 ^ scale = 2 ^ 52 * 2 ^ (scale + 1) by ring]
    exact hbelow (2 ^ 52) (scale + 1) (by decide)

end Double
end DuckTyping
