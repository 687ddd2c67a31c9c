import DuckTyping.Proofs.Guard.Alike
import DuckTyping.Proofs.Value.Equality
import DuckTyping.Proofs.Value.Lookup

/-!
# Equal values look alike

Equality does not see the order in which properties were given, the description of a symbol, the name
of a function or the sign of zero, and nothing that reflects on values sees them either.  Equal values
have the same tag, bind the same keys to equal values and have equal elements, so that no guard can
tell them apart.

Main results:

- `Value.get?_rel_of_equals`, `Value.elements?_rel_of_equals`: what equal values bind under a key and
  which elements they have.
- `Value.propertyTag_eq_of_equals`: equal values have the same tag under every key.
- `Guard.alike_of_equals`, `Guard.elementsAlike_of_equals`: equal values look alike.
- `Guard.equal_values_indistinguishable`: reflection, look-ups, verdicts and events agree.
-/

namespace DuckTyping

/-! ## Related options -/

section Related

variable {α β : Type} {r : α → β → Prop}

/-- Related options are both empty, or hold related things. -/
theorem none_or_some_of_rel {x : Option α} {y : Option β} (h : Option.Rel r x y) :
    (x = none ∧ y = none) ∨ ∃ a b, x = some a ∧ y = some b ∧ r a b := by
  cases h with
  | none => exact Or.inl ⟨rfl, rfl⟩
  | some hab => exact Or.inr ⟨_, _, rfl, rfl, hab⟩

theorem rel_getElem?_of_forall₂ {as : List α} {bs : List β} (h : List.Forall₂ r as bs)
    (position : Nat) : Option.Rel r as[position]? bs[position]? := by
  induction h generalizing position with
  | nil => exact .none
  | cons hhead _ ih =>
    cases position with
    | zero => exact .some hhead
    | succ position => exact ih position

end Related

namespace Value

variable {v w : Value}

/-! ## Reflection -/

theorem typeTag_eq_of_equals (h : v.equals w = true) : v.typeTag = w.typeTag := by
  rw [equals_iff_matches] at h
  cases h <;> rfl

/-- Equal values bind a key to equal values, or neither of them binds it. -/
theorem get?_rel_of_equals (h : v.equals w = true) (key : PropertyKey) :
    Option.Rel (fun a b => a.equals b = true) (v.get? key) (w.get? key) := by
  rw [equals_iff_matches] at h
  cases h with
  | undefined | null | bool _ | number _ | bigint _ | string _ | symbol _ | function _ =>
    exact .none
  | array helements =>
    rw [get?, get?]
    cases key.arrayIndex? with
    | none => exact .none
    | some position => exact rel_getElem?_of_forall₂ helements position
  | @object as bs hproperties =>
    rw [get?, get?]
    cases hfind : Entries.find? key as with
    | none =>
      have hnone : Entries.find? key bs = none := by
        rw [← not_ne_iff, Entries.find?_ne_none_iff, ← Entries.map_fst_eq_of_forall₂ hproperties,
          ← Entries.find?_ne_none_iff, not_ne_iff]
        exact hfind
      rw [hnone]
      exact .none
    | some a =>
      rcases Entries.exists_find?_of_forall₂ hproperties hfind with ⟨b, hb, hab⟩
      rw [hb]
      exact .some hab

/-- Equal values have elements that are equal one by one, or neither of them is an array. -/
theorem elements?_rel_of_equals (h : v.equals w = true) :
    Option.Rel (List.Forall₂ fun a b => a.equals b = true) v.elements? w.elements? := by
  rw [equals_iff_matches] at h
  cases h with
  | array helements => exact .some helements
  | undefined | null | bool _ | number _ | bigint _ | string _ | symbol _ | function _ | object _ =>
    exact .none

theorem isArray_iff_of_equals (h : v.equals w = true) :
    (∃ elements, v = array elements) ↔ ∃ elements, w = array elements := by
  rw [equals_iff_matches] at h
  cases h <;> simp

/-- Equal values have the same tag under every key. -/
theorem propertyTag_eq_of_equals (h : v.equals w = true) (key : PropertyKey) :
    v.propertyTag key = w.propertyTag key := by
  by_cases hlength : (∃ elements, v = array elements) ∧ key = .name "length"
  · have hlength' := hlength
    rw [isArray_iff_of_equals h] at hlength'
    rcases hlength with ⟨⟨as, rfl⟩, rfl⟩
    rcases hlength' with ⟨⟨bs, rfl⟩, -⟩
    rfl
  · -- Away from the length of an array the tags are those of what is bound.
    have hlength' := hlength
    rw [isArray_iff_of_equals h] at hlength'
    rw [propertyTag_eq_of_get? hlength, propertyTag_eq_of_get? hlength']
    rcases none_or_some_of_rel (get?_rel_of_equals h key) with ⟨hv, hw⟩ | ⟨a, b, hv, hw, hab⟩
    · rw [hv, hw]
    · rw [hv, hw, Option.map_some, Option.map_some, typeTag_eq_of_equals hab]

end Value

/-! ## Guards -/

namespace Guard

open Value

variable {v w : Value}

/-- Equal values look alike. -/
theorem alike_of_equals (h : v.equals w = true) : Alike v w where
  typeTag_eq := typeTag_eq_of_equals h
  propertyTag_eq := propertyTag_eq_of_equals h

/-- Equal values have elements that look alike, or neither of them has elements. -/
theorem elementsAlike_of_equals (h : v.equals w = true) : ElementsAlike v w := by
  change Option.Rel (List.Forall₂ Alike) v.elements? w.elements?
  rcases none_or_some_of_rel (elements?_rel_of_equals h) with
    ⟨hv, hw⟩ | ⟨as, bs, hv, hw, hequal⟩
  · rw [hv, hw]
    exact .none
  · rw [hv, hw]
    exact .some (hequal.imp fun _ _ => alike_of_equals)

/-- Nothing that reflects on values tells equal values apart.

- They have the same tag, and the same tag under every key.
- A key is bound in neither of them, or in both and to equal values.
- Neither of them is a sequence, or both are, with as many elements that are equal one by one.
- Each guard gives the same verdict, and both checks are told by the same events. -/
theorem equal_values_indistinguishable (h : v.equals w = true) :
    Reflection.typeTag v = Reflection.typeTag w ∧
    (∀ key, Reflection.propertyTag v key = Reflection.propertyTag w key) ∧
    (∀ key, (v.get? key = none ∧ w.get? key = none) ∨
      ∃ a b, v.get? key = some a ∧ w.get? key = some b ∧ a.equals b = true) ∧
    ((Reflection.elements v = none ∧ Reflection.elements w = none) ∨
      ∃ as bs, Reflection.elements v = some as ∧ Reflection.elements w = some bs ∧
        List.Forall₂ (fun a b => a.equals b = true) as bs) ∧
    isObject v = isObject w ∧
    ∀ expected : Expectations,
      check v expected = check w expected ∧ checkArray v expected = checkArray w expected := by
  have halike := alike_of_equals h
  have helements := elementsAlike_of_equals h
  exact ⟨halike.typeTag_eq, halike.propertyTag_eq,
    fun key => none_or_some_of_rel (get?_rel_of_equals h key),
    none_or_some_of_rel (elements?_rel_of_equals h), halike.isObject_eq,
    fun expected => ⟨halike.check_eq expected, helements.checkArray_eq expected⟩⟩

/-- Two arrays that hold the two zeros and one symbol with two descriptions are equal, so that the
same contracts accept them and the same event tells why one does not. -/
theorem equal_values_indistinguishable_zeros :
    (Value.array [.number ⟨0⟩, .symbol ⟨⟨1⟩, some "a"⟩]).equals
        (Value.array [.number ⟨0x8000000000000000⟩, .symbol ⟨⟨1⟩, none⟩]) = true ∧
      (∀ expected : Expectations,
        check (Value.array [.number ⟨0⟩, .symbol ⟨⟨1⟩, some "a"⟩]) expected =
            check (Value.array [.number ⟨0x8000000000000000⟩, .symbol ⟨⟨1⟩, none⟩]) expected ∧
          checkArray (Value.array [.number ⟨0⟩, .symbol ⟨⟨1⟩, some "a"⟩]) expected =
            checkArray (Value.array [.number ⟨0x8000000000000000⟩, .symbol ⟨⟨1⟩, none⟩])
              expected) ∧
      check (Value.array [.number ⟨0x8000000000000000⟩, .symbol ⟨⟨1⟩, none⟩])
          (.ofList [(.name "1", .string)]) =
        ⟨false, [.propertyMismatch ⟨.name "1", .string, .symbol⟩]⟩ := by
  have hequal : (Value.array [.number ⟨0⟩, .symbol ⟨⟨1⟩, some "a"⟩]).equals
      (Value.array [.number ⟨0x8000000000000000⟩, .symbol ⟨⟨1⟩, none⟩]) = true := by decide
  rcases equal_values_indistinguishable hequal with ⟨-, -, -, -, -, hguards⟩
  refine ⟨hequal, hguards, ?_⟩
  rw [← (hguards _).1]
  rfl

end Guard
end DuckTyping
