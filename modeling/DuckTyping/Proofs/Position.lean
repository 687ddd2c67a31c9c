import DuckTyping.PropertyKey
import Mathlib.Data.List.Basic
import Mathlib.Data.List.Induction

/-!
# Keys and positions

An array answers to the names that are numerals of its positions.  Reading such a name undoes
writing the numeral, and no other name is read as a position.

Main results:

- `PropertyKey.numeral?_eq_some_iff`: a text is read as a number exactly when it is the decimal
  numeral of that number.
- `PropertyKey.arrayIndex?_eq_some_iff`: a key addresses a position exactly when it is the key of
  that position and the position is below the limit.
- `PropertyKey.ofInt_natCast_inj`: different positions have different keys.
-/

namespace DuckTyping
namespace PropertyKey

/-! ## Digits -/

theorem digitChar_of_isDigit {c : Char} (h : c.isDigit = true) :
    Nat.digitChar (c.toNat - '0'.toNat) = c := by
  have hbounds : 48 ≤ c.toNat ∧ c.toNat ≤ 57 := by
    simpa [Char.isDigit, UInt32.le_iff_toNat_le] using h
  apply Char.toNat_inj.mp
  change (Nat.digitChar (c.toNat - 48)).toNat = c.toNat
  rw [Nat.toNat_digitChar_of_lt_ten (by omega)]
  omega

theorem digit_lt_ten {c : Char} (h : c.isDigit = true) : c.toNat - '0'.toNat < 10 := by
  have hbounds : 48 ≤ c.toNat ∧ c.toNat ≤ 57 := by
    simpa [Char.isDigit, UInt32.le_iff_toNat_le] using h
  change c.toNat - 48 < 10
  omega

/-- The value of digits is the library's value of digits in base ten. -/
theorem digitsValue_eq_ofDigitChars (digits : List Char) :
    digitsValue digits = Nat.ofDigitChars 10 digits 0 := by
  simp only [digitsValue, Nat.ofDigitChars_eq_foldl, Nat.mul_comm]

@[simp]
theorem digitsValue_toDigits (n : Nat) : digitsValue (Nat.toDigits 10 n) = n := by
  rw [digitsValue_eq_ofDigitChars, Nat.ofDigitChars_ten_toDigits]

theorem digitsValue_append_singleton (digits : List Char) (digit : Char) :
    digitsValue (digits ++ [digit]) = 10 * digitsValue digits + (digit.toNat - '0'.toNat) := by
  simp only [digitsValue, List.foldl_append, List.foldl_cons, List.foldl_nil, Nat.mul_comm]

/-! ## Numerals -/

/-- The numeral of a positive number does not start with a zero. -/
theorem head?_toDigits_ne_zero {n : Nat} (hn : 0 < n) :
    (Nat.toDigits 10 n).head? ≠ some '0' := by
  induction n using Nat.strongRecOn with
  | ind n ih =>
    rcases Nat.lt_or_ge n 10 with hlt | hge
    · intro hhead
      rw [Nat.toDigits_of_lt_base hlt] at hhead
      have hdigit : n.digitChar = '0' := by simpa using hhead
      have hcode : 48 = 48 + n := by
        simpa [hdigit] using Nat.toNat_digitChar_of_lt_ten hlt
      omega
    · have hquotient : 0 < n / 10 := Nat.div_pos hge (by decide)
      have hhead := ih (n / 10) (Nat.div_lt_self hn (by decide)) hquotient
      rw [Nat.toDigits_of_base_le (by decide) hge]
      rwa [List.head?_append_of_ne_nil _ Nat.toDigits_ne_nil]

/-- Digits without a leading zero denote a positive number and are its numeral. -/
theorem toDigits_digitsValue {text : List Char} (hne : text ≠ [])
    (hdigits : ∀ c ∈ text, c.isDigit = true) (hhead : text.head? ≠ some '0') :
    0 < digitsValue text ∧ Nat.toDigits 10 (digitsValue text) = text := by
  induction text using List.reverseRecOn with
  | nil => exact absurd rfl hne
  | append_singleton digits digit ih =>
    have hdigit : digit.isDigit = true := hdigits digit (by simp)
    have hlt := digit_lt_ten hdigit
    rw [digitsValue_append_singleton]
    rcases eq_or_ne digits [] with rfl | hdigits_ne
    · have hpos : 0 < digit.toNat - '0'.toNat := by
        rw [Nat.pos_iff_ne_zero]
        intro hzero
        have hchar := digitChar_of_isDigit hdigit
        rw [hzero] at hchar
        simp [← hchar] at hhead
      have hvalue : 10 * digitsValue [] + (digit.toNat - '0'.toNat) = digit.toNat - '0'.toNat := by
        simp [digitsValue]
      rw [hvalue, Nat.toDigits_of_lt_base hlt, digitChar_of_isDigit hdigit]
      exact ⟨hpos, rfl⟩
    · have hfront : ∀ c ∈ digits, c.isDigit = true := fun c hc => hdigits c (by simp [hc])
      rw [List.head?_append_of_ne_nil _ hdigits_ne] at hhead
      rcases ih hdigits_ne hfront hhead with ⟨hpos, hnumeral⟩
      refine ⟨by omega, ?_⟩
      rw [← Nat.toDigits_append_toDigits (by decide) hpos hlt, hnumeral,
        Nat.toDigits_of_lt_base hlt, digitChar_of_isDigit hdigit]

/-- A text is read as a number exactly when it is the decimal numeral of that number. -/
theorem numeral?_eq_some_iff {text : List Char} {n : Nat} :
    numeral? text = some n ↔ text = Nat.toDigits 10 n := by
  constructor
  · intro h
    unfold numeral? at h
    split at h
    · contradiction
    rename_i hne
    split at h
    · contradiction
    rename_i hall
    split at h
    · contradiction
    rename_i hzero
    have hdigits : ∀ c ∈ text, c.isDigit = true := by simpa using hall
    have hvalue : digitsValue text = n := Option.some.inj h
    subst hvalue
    by_cases hhead : text.head? = some '0'
    · -- A numeral that starts with a zero is the numeral of zero.
      rcases List.head?_eq_some_iff.mp hhead with ⟨rest, rfl⟩
      have hrest : rest = [] := by
        by_contra hrest
        have hlength := List.length_pos_iff.mpr hrest
        exact hzero ⟨by simp only [List.length_cons]; omega, hhead⟩
      subst hrest
      rfl
    · exact (toDigits_digitsValue hne hdigits hhead).2.symm
  · rintro rfl
    have hdigits : (Nat.toDigits 10 n).all Char.isDigit = true :=
      List.all_eq_true.mpr fun c hc => Nat.isDigit_of_mem_toDigits (by decide) (by decide) hc
    have hzero : ¬((Nat.toDigits 10 n).length > 1 ∧ (Nat.toDigits 10 n).head? = some '0') := by
      rintro ⟨hlength, hhead⟩
      rcases Nat.eq_zero_or_pos n with rfl | hn
      · simp at hlength
      · exact head?_toDigits_ne_zero hn hhead
    rw [numeral?, if_neg Nat.toDigits_ne_nil, if_neg (by simp [hdigits]), if_neg hzero,
      digitsValue_toDigits]

/-! ## Positions -/

theorem ofInt_natCast (n : Nat) : ofInt n = name n.repr := by
  simp [ofInt, Int.repr_eq_if]

/-- A key addresses a position exactly when it is the key of that position and the position is
below the limit. -/
theorem arrayIndex?_eq_some_iff {key : PropertyKey} {position : Nat} :
    key.arrayIndex? = some position ↔ position < indexLimit ∧ key = ofInt position := by
  cases key with
  | symbol id => simp [arrayIndex?, ofInt]
  | name text =>
    have htext : text.toList = Nat.toDigits 10 position ↔ text = position.repr := by
      rw [← Nat.toList_repr, String.toList_inj]
    rw [arrayIndex?, Option.filter_eq_some_iff, numeral?_eq_some_iff, htext, ofInt_natCast]
    simp [and_comm]

/-- Different positions have different keys. -/
theorem ofInt_natCast_inj {m n : Nat} : ofInt m = ofInt n ↔ m = n := by
  constructor
  · intro h
    rw [ofInt_natCast, ofInt_natCast] at h
    have hdigits : Nat.toDigits 10 m = Nat.toDigits 10 n := by
      rw [← Nat.toList_repr, ← Nat.toList_repr, name.inj h]
    rw [← digitsValue_toDigits m, ← digitsValue_toDigits n, hdigits]
  · intro h
    rw [h]

end PropertyKey
end DuckTyping
