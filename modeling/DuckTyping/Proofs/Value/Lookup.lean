import DuckTyping.Proofs.Guard.OwnBinding

/-!
# Properties and what is bound

A value answers two questions about a key: what is bound under it, and which tag the property under
it has.  The property has the tag of what is bound, and is undefined where nothing is bound.  The one
exception is the length of an array, which is a number that no array stores.  An array stores its
elements, each under the numeral of its position and under no other key.

Main results:

- `Value.get?_array_eq_some_iff`: what an array gives under a key.
- `Value.get?_array_set`: a replaced element is found under the numeral of its position alone.
- `Value.propertyTag_eq_of_get?`: apart from the length of an array, the tag of a property is that of
  what is bound under its key.
- `Value.property_lookups_agree`: both look-ups together.
-/

namespace DuckTyping
namespace Value

variable {key : PropertyKey} {elements : List Value}

/-! ## Elements of arrays -/

/-- An array gives under a key the element at the position that the key is the numeral of. -/
theorem get?_array_eq_some_iff {found : Value} :
    (array elements).get? key = some found ↔
      ∃ position, position < PropertyKey.indexLimit ∧ key = .ofInt position ∧
        elements[position]? = some found := by
  simp only [get?, Option.bind_eq_some_iff, PropertyKey.arrayIndex?_eq_some_iff, and_assoc]

theorem get?_array_ofInt {position : Nat} (below : position < PropertyKey.indexLimit) :
    (array elements).get? (.ofInt position) = elements[position]? := by
  have hindex : (PropertyKey.ofInt position).arrayIndex? = some position :=
    PropertyKey.arrayIndex?_eq_some_iff.mpr ⟨below, rfl⟩
  rw [get?, hindex, Option.bind_some]

/-- An array gives nothing under a key that is not the numeral of one of its positions. -/
theorem get?_array_eq_none
    (h : ∀ position, position < min elements.length PropertyKey.indexLimit →
      key ≠ .ofInt position) : (array elements).get? key = none := by
  rw [Option.eq_none_iff_forall_ne_some]
  intro found hfound
  rcases get?_array_eq_some_iff.mp hfound with ⟨position, below, hkey, helement⟩
  rcases List.getElem?_eq_some_iff.mp helement with ⟨inBounds, -⟩
  exact h position (Nat.lt_min.mpr ⟨inBounds, below⟩) hkey

/-- A replaced element is found under the numeral of its position, and every other key gives what it
gave before. -/
theorem get?_array_set {position : Nat} (inBounds : position < elements.length)
    (below : position < PropertyKey.indexLimit) (item : Value) (key : PropertyKey) :
    (array (elements.set position item)).get? key =
      if key = .ofInt position then some item else (array elements).get? key := by
  split
  next hkey =>
    rw [hkey, get?_array_ofInt below, List.getElem?_set_self inBounds]
  next hkey =>
    -- The key addresses another position, if it addresses one at all.
    apply Option.ext
    intro found
    simp only [get?_array_eq_some_iff]
    apply exists_congr
    intro other
    refine and_congr_right fun _ => and_congr_right ?_
    rintro rfl
    have hne : position ≠ other := fun heq => hkey (by rw [heq])
    rw [List.getElem?_set_ne hne]

/-! ## Tags of properties -/

theorem get?_array_length : (array elements).get? (.name "length") = none := by
  apply get?_array_eq_none
  intro position _
  exact (Reflection.ofInt_ne_lengthName position).symm

/-- Apart from the length of an array, the tag of a property is that of what is bound under its key,
and a property is undefined where nothing is bound. -/
theorem propertyTag_eq_of_get? {value : Value}
    (h : ¬((∃ elements, value = array elements) ∧ key = .name "length")) :
    value.propertyTag key = ((value.get? key).map typeTag).getD .undefined := by
  cases value with
  | undefined | null | bool _ | number _ | bigint _ | string _ | symbol _ | function _ => rfl
  | array elements =>
    have hkey : key ≠ .name Reflection.lengthName := fun hkey => h ⟨⟨elements, rfl⟩, hkey⟩
    rw [propertyTag, Reflection.sequencePropertyTag, if_neg hkey, get?]
    cases key.arrayIndex?.bind fun index => elements[index]? with
    | none => rfl
    | some element => rfl
  | object properties =>
    rw [propertyTag, get?]
    cases Entries.find? key properties with
    | none => rfl
    | some property => rfl

/-- What is bound under a key tells the tag of the property under it.

- Where something is bound, the property has its tag.
- Where nothing is bound, the property is undefined, unless the key is the length of an array.  What
  an object binds under that name is no exception.
- Under that key an array gives nothing, and its property is a number.
- An array gives exactly the elements at positions below `2 ^ 32 - 1`, each under the decimal name
  of its position; under every other key, be it a symbol, another spelling or a position that the
  array does not have, it gives nothing.
- The element at such a position is given under one key alone: replacing it by another item changes
  what is found under the decimal name of the position, and under no other key. -/
theorem property_lookups_agree :
    (∀ (value found : Value) (key : PropertyKey), value.get? key = some found →
      value.propertyTag key = found.typeTag) ∧
    (∀ (value : Value) (key : PropertyKey), value.get? key = none →
      (value.propertyTag key ≠ .undefined ↔
        (∃ elements, value = array elements) ∧ key = .name "length")) ∧
    (∀ elements : List Value, (array elements).get? (.name "length") = none ∧
      (array elements).propertyTag (.name "length") = .number) ∧
    (∀ (elements : List Value) (found : Value) (key : PropertyKey),
      (array elements).get? key = some found ↔
        ∃ position : Nat, position < 4294967295 ∧ key = .ofInt position ∧
          elements[position]? = some found) ∧
    (∀ (elements : List Value) (key : PropertyKey),
      (∀ position : Nat, position < min elements.length 4294967295 → key ≠ .ofInt position) →
        (array elements).get? key = none) ∧
    (∀ (elements : List Value) (position : Nat), position < elements.length →
      position < 4294967295 → ∀ (item : Value) (key : PropertyKey),
        (array (elements.set position item)).get? key =
          if key = .ofInt position then some item else (array elements).get? key) := by
  refine ⟨?_, ?_, fun _ => ⟨get?_array_length, rfl⟩, fun _ _ _ => get?_array_eq_some_iff,
    fun _ _ => get?_array_eq_none, fun _ _ => get?_array_set⟩
  · intro value found key hfound
    rw [propertyTag_eq_of_get?, hfound, Option.map_some, Option.getD_some]
    rintro ⟨⟨elements, rfl⟩, rfl⟩
    rw [get?_array_length] at hfound
    contradiction
  · intro value key hnone
    constructor
    · intro htag
      by_contra hlength
      rw [propertyTag_eq_of_get? hlength, hnone] at htag
      exact htag rfl
    · rintro ⟨⟨elements, rfl⟩, rfl⟩ hundefined
      contradiction

/-- In an array of a string and null the string is found under `0` and null under `1`, nothing is
found under `01`, under the length or under a symbol, and a new item at position one is found under
`1` alone. -/
theorem property_lookups_agree_string_null :
    (array [.string "a", null]).get? (.name "0") = some (.string "a") ∧
      (array [.string "a", null]).propertyTag (.name "0") = .string ∧
      (array [.string "a", null]).get? (.name "01") = none ∧
      (array [.string "a", null]).propertyTag (.name "01") = .undefined ∧
      (array [.string "a", null]).get? (.symbol ⟨1⟩) = none ∧
      (array [.string "a", bool true]).get? (.name "1") = some (bool true) ∧
      (array [.string "a", bool true]).get? (.name "0") = some (.string "a") := by
  rcases property_lookups_agree with ⟨hsome, hnone, -, -, hother, hset⟩
  have hzero : (array [.string "a", null]).get? (.name "0") = some (.string "a") := rfl
  have hspelling : (array [.string "a", null]).get? (.name "01") = none := rfl
  refine ⟨hzero, hsome _ _ _ hzero, hspelling, ?_, hother _ _ ?_, ?_, ?_⟩
  · by_contra htag
    rcases (hnone _ _ hspelling).mp htag with ⟨-, hkey⟩
    revert hkey
    decide
  · intro position _ hkey
    simp [PropertyKey.ofInt] at hkey
  · exact hset [.string "a", null] 1 (by decide) (by decide) (bool true) (.name "1")
  · exact hset [.string "a", null] 1 (by decide) (by decide) (bool true) (.name "0")

end Value
end DuckTyping
