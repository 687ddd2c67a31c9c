import DuckTyping.Guard
import Mathlib.Data.List.Forall2
import Mathlib.Data.Option.Basic

/-!
# Values that look alike

The guards see of a value only its tag, the tags of its properties and its elements.  Two values,
perhaps of different types, that give the same answers are treated alike by every guard: the
verdicts agree, and so do the events.

Main definitions:

- `Guard.Alike`: two values have the same tag, and the same tag under every key.
- `Guard.ElementsAlike`: both values are sequences of values that look alike one by one, or neither
  is a sequence.

Main results:

- `Guard.check_eq_of_listed`: properties that a contract does not list never matter.
- `Guard.Alike.check_eq`, `Guard.ElementsAlike.checkArray_eq`: both checks agree on such values,
  verdict and events.
-/

namespace DuckTyping
namespace Guard

variable {α β : Type} [Reflection α] [Reflection β] {a : α} {b : β}

/-- Two values have the same tag, and the same tag under every key. -/
structure Alike (a : α) (b : β) : Prop where
  typeTag_eq : Reflection.typeTag a = Reflection.typeTag b
  propertyTag_eq : ∀ key, Reflection.propertyTag a key = Reflection.propertyTag b key

/-- Both values are sequences of values that look alike one by one, or neither is a sequence. -/
def ElementsAlike (a : α) (b : β) : Prop :=
  Option.Rel (List.Forall₂ Alike) (Reflection.elements a) (Reflection.elements b)

/-! ## Single values -/

theorem Alike.isObject_eq (h : Alike a b) : isObject a = isObject b := by
  simp only [isObject, Reflection.isNullish, h.typeTag_eq]

/-- The check cannot tell objects apart that have the same tags under the listed keys. -/
theorem check_eq_of_listed {expected : Expectations} (hobject : isObject a = isObject b)
    (h : ∀ entry ∈ expected.entries,
      Reflection.propertyTag a entry.1 = Reflection.propertyTag b entry.1) :
    check a expected = check b expected := by
  have hmismatch : firstMismatch? a expected = firstMismatch? b expected := by
    rw [firstMismatch?, firstMismatch?, ← List.head?_filterMap, ← List.head?_filterMap]
    apply congrArg List.head?
    apply List.filterMap_congr
    intro entry hentry
    rw [mismatch?, mismatch?, h entry hentry]
  rw [check, check, hobject, hmismatch]

/-- The check cannot tell values apart that look alike. -/
theorem Alike.check_eq (h : Alike a b) (expected : Expectations) :
    check a expected = check b expected :=
  check_eq_of_listed h.isObject_eq fun entry _ => h.propertyTag_eq entry.1

/-! ## Sequences -/

theorem firstFailure_eq_of_alike {as : List α} {bs : List β} (h : List.Forall₂ Alike as bs)
    (expected : Expectations) (index : Nat) :
    firstFailure expected index as = firstFailure expected index bs := by
  induction h generalizing index with
  | nil => rfl
  | cons hhead _ ih => simp only [firstFailure, hhead.check_eq expected, ih]

/-- The check of sequences cannot tell values apart whose elements look alike. -/
theorem ElementsAlike.checkArray_eq (h : ElementsAlike a b) (expected : Expectations) :
    checkArray a expected = checkArray b expected := by
  unfold ElementsAlike at h
  unfold checkArray
  generalize Reflection.elements a = as at h ⊢
  generalize Reflection.elements b = bs at h ⊢
  cases h with
  | none => rfl
  | some helements =>
    simp only [firstFailure_eq_of_alike helements expected 0, helements.length_eq]

end Guard
end DuckTyping
