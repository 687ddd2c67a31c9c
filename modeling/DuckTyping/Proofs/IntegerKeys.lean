import Mathlib
import DuckTyping.Proofs.Position

/-!
# Integers as keys

An integer addresses a property through its decimal numeral, and an array reads a name that is the
numeral of a position as that position.  Writing and reading undo each other: different integers have
different keys, whatever types they came from, and a name is read as a position exactly when it is
the numeral of that position.

Main definitions:

- `PropertyKey.IsNumeral`: a text is the decimal numeral of a number, by its digits alone.

Main results:

- `PropertyKey.isNumeral_iff`: a number has one numeral, the text that it is written as.
- `PropertyKey.ofInt_inj`: different integers have different keys.
- `PropertyKey.arrayIndex?_ofInt`: which integers are positions.
- `PropertyKey.index_names_inverse_to_integer_keys`: names, positions and integer keys together.
-/

namespace DuckTyping
namespace PropertyKey

/-! ## Numerals -/

/-- A text is the decimal numeral of a number: digits from `0` to `9`, at least one and neither a
sign nor a leading zero, that denote the number in base ten. -/
structure IsNumeral (text : String) (n : Nat) : Prop where
  nonempty : text.toList ≠ []
  digits : ∀ c ∈ text.toList, '0' ≤ c ∧ c ≤ '9'
  noLeadingZero : 1 < text.toList.length → text.toList.head? ≠ some '0'
  value : Nat.ofDigitChars 10 text.toList 0 = n

theorem isDigit_iff {c : Char} : c.isDigit = true ↔ '0' ≤ c ∧ c ≤ '9' := by
  simp [Char.isDigit, Char.le_def]

/-- The numeral of a number is read as that number. -/
theorem IsNumeral.numeral? {text : String} {n : Nat} (h : IsNumeral text n) :
    PropertyKey.numeral? text.toList = some n := by
  have hdigits : text.toList.all Char.isDigit = true :=
    List.all_eq_true.mpr fun c hc => isDigit_iff.mpr (h.digits c hc)
  have hzero : ¬(text.toList.length > 1 ∧ text.toList.head? = some '0') := by
    rintro ⟨hlength, hhead⟩
    exact h.noLeadingZero hlength hhead
  rw [PropertyKey.numeral?, if_neg h.nonempty, if_neg (by simp [hdigits]), if_neg hzero,
    digitsValue_eq_ofDigitChars, h.value]

/-- What a number is written as is its numeral. -/
theorem isNumeral_repr (n : Nat) : IsNumeral n.repr n where
  nonempty := by
    rw [Nat.toList_repr]
    exact Nat.toDigits_ne_nil
  digits c hc := by
    rw [Nat.toList_repr] at hc
    exact isDigit_iff.mp (Nat.isDigit_of_mem_toDigits (by decide) (by decide) hc)
  noLeadingZero hlength := by
    rw [Nat.toList_repr] at hlength ⊢
    apply head?_toDigits_ne_zero
    rw [Nat.pos_iff_ne_zero]
    rintro rfl
    simp at hlength
  value := by
    rw [Nat.toList_repr, Nat.ofDigitChars_ten_toDigits]

/-- A number has one numeral, the text that it is written as. -/
theorem isNumeral_iff {text : String} {n : Nat} : IsNumeral text n ↔ text = n.repr := by
  constructor
  · intro h
    rw [← String.toList_inj, Nat.toList_repr]
    exact numeral?_eq_some_iff.mp h.numeral?
  · rintro rfl
    exact isNumeral_repr n

/-! ## Integers -/

/-- Different integers have different keys. -/
theorem ofInt_inj {x y : Int} : ofInt x = ofInt y ↔ x = y := by
  rw [ofInt, ofInt, name.injEq]
  exact Int.repr_inj

/-- The key of an integer addresses a position exactly when the integer is one. -/
theorem arrayIndex?_ofInt (x : Int) :
    (ofInt x).arrayIndex? = if 0 ≤ x ∧ x < indexLimit then some x.toNat else none := by
  split
  next h =>
    have hx : ((x.toNat : Nat) : Int) = x := Int.toNat_of_nonneg h.1
    rw [arrayIndex?_eq_some_iff, hx]
    exact ⟨by omega, rfl⟩
  next h =>
    rw [Option.eq_none_iff_forall_ne_some]
    intro position hposition
    rcases arrayIndex?_eq_some_iff.mp hposition with ⟨hlimit, hkey⟩
    have hx : x = position := ofInt_inj.mp hkey
    omega

/-! ## Names and positions -/

/-- Reading a name as a position and taking an integer as a key undo each other.

- A name addresses a position exactly when the position is below `2 ^ 32 - 1` and the name is its
  decimal numeral, which is to say that the name is the key of the position.
- No symbol addresses a position.
- The key of an integer addresses that integer if it is such a position, and otherwise none.
- Integers have the same key exactly when they are the same integer.  A key holds the integer alone,
  so it does not matter how many bits and which sign the types of the two integers have. -/
theorem index_names_inverse_to_integer_keys :
    (∀ (text : String) (n : Nat),
      ((name text).arrayIndex? = some n ↔ n < 4294967295 ∧ IsNumeral text n) ∧
      ((name text).arrayIndex? = some n ↔ ofInt n = name text ∧ n < 4294967295)) ∧
    (∀ id : SymbolId, (symbol id).arrayIndex? = none) ∧
    (∀ x : Int,
      (ofInt x).arrayIndex? = if 0 ≤ x ∧ x < 4294967295 then some x.toNat else none) ∧
    (∀ x y : Int, ofInt x = ofInt y ↔ x = y) := by
  refine ⟨?_, fun _ => rfl, arrayIndex?_ofInt, fun _ _ => ofInt_inj⟩
  intro text n
  have hname : name text = ofInt n ↔ IsNumeral text n := by
    rw [ofInt_natCast, name.injEq, isNumeral_iff]
  constructor
  · rw [arrayIndex?_eq_some_iff, hname]
    rfl
  · rw [arrayIndex?_eq_some_iff, and_comm, @eq_comm _ (name text)]
    rfl

end PropertyKey
end DuckTyping
