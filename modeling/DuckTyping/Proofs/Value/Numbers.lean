import DuckTyping.Proofs.Double.Format
import DuckTyping.Value.OfDocument

/-!
# Numbers as values

Integers and single-precision numbers become doubles when they are made values.  An integer becomes
the nearest double, and is kept exactly up to `2 ^ 53`; greater integers never become smaller doubles.
A single-precision number is kept exactly.  All of this is said of the bits of the double, decoded in
its format.

Main results:

- `Double.isNearest_ofInt`: an integer is rounded to the nearest double.
- `Double.decode_ofInt`: an integer of at most 53 bits, or `2 ^ 53`, is kept exactly.
- `Double.value_ofInt_le`: rounding keeps the order of integers.
- `Value.numbers_convert_correctly_rounded`: integers of 64 bits, integers of documents, shorter
  integers and single-precision words together.
-/

namespace DuckTyping

open BinaryFormat

namespace Double

variable {n : ℤ}

/-- An integer is its magnitude under its sign. -/
theorem signFactor_mul_natAbs (n : ℤ) : signFactor (decide (n < 0)) * (n.natAbs : ℚ) = n := by
  rcases Int.lt_or_le n 0 with hneg | hnonneg
  · have habs : ((n.natAbs : ℤ) : ℚ) = ((-n : ℤ) : ℚ) := by
      rw [Int.ofNat_natAbs_of_nonpos hneg.le]
    rw [decide_eq_true hneg, signFactor, if_pos rfl, ← Int.cast_natCast, habs, Int.cast_neg,
      neg_one_mul, neg_neg]
  · have habs : ((n.natAbs : ℤ) : ℚ) = n := by
      rw [Int.natAbs_of_nonneg hnonneg]
    rw [decide_eq_false (not_lt.mpr hnonneg), signFactor, if_neg Bool.false_ne_true, one_mul,
      ← Int.cast_natCast, habs]

/-- An integer of at most 1022 bits is rounded to the nearest double. -/
theorem isNearest_ofInt {bits : ℕ} (hbits : bits ≤ 1022) (h : n.natAbs < 2 ^ bits) :
    double.IsNearest n (ofInt n).bits.toNat := by
  have hnearest := isNearest_nearest Nat.one_pos (binade_natAbs_lt hbits h) (decide (n < 0))
  rw [Nat.cast_mul, Nat.cast_one, div_one, mul_div_cancel_right₀ _ cast_unitsPerOne_pos.ne',
    signFactor_mul_natAbs] at hnearest
  exact hnearest

/-- An integer of at most 53 bits, or the next greater one, is kept exactly. -/
theorem decode_ofInt (h : n.natAbs ≤ 2 ^ 53) :
    double.decode (ofInt n).bits.toNat = .finite (decide (n < 0)) n := by
  have hbits : n.natAbs < 2 ^ 54 := by omega
  have hbinade : binade (n.natAbs * unitsPerOne) 1 < 2045 :=
    binade_natAbs_lt (by decide) hbits
  rw [unitsPerOne_eq] at hbinade
  rw [ofInt, unitsPerOne_eq, decode_nearest_scaled h hbinade, signFactor_mul_natAbs]
  rw [Nat.cast_ofNat, sub_self, zpow_zero, mul_one]

/-- Greater integers of at most 1022 bits do not become smaller doubles. -/
theorem value_ofInt_le {m n : ℤ} {bits : ℕ} (hbits : bits ≤ 1022) (hm : m.natAbs < 2 ^ bits)
    (hn : n.natAbs < 2 ^ bits) (hle : m ≤ n) :
    double.value (ofInt m).bits.toNat ≤ double.value (ofInt n).bits.toNat := by
  rcases hle.eq_or_lt with rfl | hlt
  · exact le_rfl
  · have hlesser := isNearest_ofInt hbits hm
    have hgreater := isNearest_ofInt hbits hn
    exact (hlesser.preferred _ (bits_lt _) hgreater.finite).le_of_lt
      (hgreater.preferred _ (bits_lt _) hlesser.finite) (Int.cast_lt.mpr hlt)

end Double

namespace Value

/-- Numbers are converted to values with correct rounding.

- An integer of 64 bits, signed or unsigned, becomes the nearest double, a tie going to the even
  significand, and it is kept exactly up to `2 ^ 53`.
- Conversion keeps the order of such integers, whichever of them are signed.
- An integer of a document becomes the same double as the integer alone.
- The words of at most 32 bits are kept exactly, read as signed or as unsigned integers.
- A single-precision word is widened to a double that stands for the same: the same rational under
  the same sign, the same infinity, or no number. -/
theorem numbers_convert_correctly_rounded :
    (∀ n : ℤ, -2 ^ 63 ≤ n → n < 2 ^ 64 → ∃ x, ofInt n = number x ∧
      double.IsNearest n x.bits.toNat ∧
      (|n| ≤ 2 ^ 53 → double.decode x.bits.toNat = .finite (decide (n < 0)) n)) ∧
    (∀ m n : ℤ, -2 ^ 63 ≤ m → m ≤ n → n < 2 ^ 64 →
      ∃ x y, ofInt m = number x ∧ ofInt n = number y ∧
        double.value x.bits.toNat ≤ double.value y.bits.toNat) ∧
    (∀ n inRange, ofDocument (.number (.integer n inRange)) = ofInt n) ∧
    (∀ (width : ℕ) (word : BitVec width), width ≤ 32 →
      ∀ n ∈ [word.toInt, (word.toNat : ℤ)], ∃ x, ofInt n = number x ∧
        double.decode x.bits.toNat = .finite (decide (n < 0)) n) ∧
    ∀ word : UInt32,
      double.decode (Double.ofSingle word).bits.toNat = single.decode word.toNat := by
  refine ⟨?_, ?_, fun _ _ => rfl, ?_, Double.decode_ofSingle⟩
  · intro n hlow hhigh
    have hbits : n.natAbs < 2 ^ 65 := by omega
    refine ⟨_, rfl, Double.isNearest_ofInt (by decide) hbits, ?_⟩
    intro hexact
    rw [Int.abs_eq_natAbs] at hexact
    exact Double.decode_ofInt (by omega)
  · intro m n hlow hle hhigh
    have hm : m.natAbs < 2 ^ 65 := by omega
    have hn : n.natAbs < 2 ^ 65 := by omega
    exact ⟨_, _, rfl, rfl, Double.value_ofInt_le (by decide) hm hn hle⟩
  · intro width word hwidth n hn
    refine ⟨_, rfl, Double.decode_ofInt ?_⟩
    have hbits : 2 ^ width ≤ 2 ^ 32 := Nat.pow_le_pow_right (by decide) hwidth
    have hword := word.isLt
    have hsigned := word.toInt_eq_toNat_cond
    rcases List.mem_pair.mp hn with rfl | rfl
    · rw [hsigned]
      split <;> omega
    · omega

/-- The first integer that is not a double lies half way between two doubles and goes down to the one
with the even significand, while the integer before it is kept, here under the other sign.  The
greatest unsigned word goes up to `2 ^ 64`, alone and in a document, which is above the least signed
word.  The least signed word of 32 bits is kept, and so is the greatest negative single-precision
number. -/
theorem numbers_convert_correctly_rounded_ties :
    (ofInt 9007199254740993 = number ⟨0x4340000000000000⟩ ∧
      double.IsNearest 9007199254740993 0x4340000000000000) ∧
    double.decode (Double.ofInt (-9007199254740992)).bits.toNat =
      .finite true (-9007199254740992) ∧
    (ofInt (-9223372036854775808) = number ⟨0xC3E0000000000000⟩ ∧
      ofInt 18446744073709551615 = number ⟨0x43F0000000000000⟩ ∧
      double.value 0xC3E0000000000000 ≤ double.value 0x43F0000000000000) ∧
    ofDocument (.number (.integer 18446744073709551615 (by decide))) = number ⟨0x43F0000000000000⟩ ∧
    double.decode (Double.ofInt (-2147483648)).bits.toNat = .finite true (-2147483648) ∧
    double.decode (Double.ofSingle 0x80000001).bits.toNat = single.decode 0x80000001 := by
  rcases numbers_convert_correctly_rounded with ⟨hnearest, horder, hdocument, hshort, hsingle⟩
  have htie : Double.ofInt 9007199254740993 = ⟨0x4340000000000000⟩ := by decide +kernel
  have hleast : Double.ofInt (-9223372036854775808) = ⟨0xC3E0000000000000⟩ := by decide +kernel
  have hgreatest : Double.ofInt 18446744073709551615 = ⟨0x43F0000000000000⟩ := by decide +kernel
  refine ⟨⟨congrArg number htie, ?_⟩, ?_,
    ⟨congrArg number hleast, congrArg number hgreatest, ?_⟩,
    (hdocument _ _).trans (congrArg number hgreatest), ?_, hsingle 0x80000001⟩
  · rcases hnearest 9007199254740993 (by decide) (by decide) with ⟨x, hx, hnear, -⟩
    obtain rfl : Double.ofInt 9007199254740993 = x := number.inj hx
    rw [htie] at hnear
    exact_mod_cast hnear
  · rcases hnearest (-9007199254740992) (by decide) (by decide) with ⟨x, hx, -, hexact⟩
    obtain rfl : Double.ofInt (-9007199254740992) = x := number.inj hx
    exact_mod_cast hexact (by decide)
  · rcases horder (-9223372036854775808) 18446744073709551615 (by decide) (by decide) (by decide)
      with ⟨x, y, hx, hy, hle⟩
    obtain rfl : Double.ofInt (-9223372036854775808) = x := number.inj hx
    obtain rfl : Double.ofInt 18446744073709551615 = y := number.inj hy
    rw [hleast, hgreatest] at hle
    exact hle
  · rcases hshort 32 0x80000000 (by decide) (-2147483648) (by decide) with ⟨x, hx, hkept⟩
    obtain rfl : Double.ofInt (-2147483648) = x := number.inj hx
    exact_mod_cast hkept

end Value
end DuckTyping
