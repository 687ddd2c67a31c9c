import DuckTyping.Guard

/-!
# Verdicts of the guards

Each guard is described by the questions that it asks: the check of a value by the tags of its
properties, the check of a sequence by the checks of its elements.

Main results:

- `Guard.isObject_iff`: objects are the values with the object tag.
- `Guard.check_cases`: the three ways in which a check can go, with the events of each.
- `Guard.check_result_iff`: a check passes exactly for objects whose listed properties have the
  expected tags.
- `Guard.firstFailure_append`: passing elements leave no events in the search for a failing one.
- `Guard.checkArray_result_iff`: a check of a sequence passes exactly when those of its elements do.
-/

namespace DuckTyping
namespace Guard

variable {α : Type} [Reflection α]

/-! ## Single values -/

/-- Objects are the values with the object tag. -/
theorem isObject_iff {value : α} :
    isObject value = true ↔ Reflection.typeTag value = .object := by
  unfold isObject Reflection.isNullish
  cases Reflection.typeTag value <;> decide

theorem mismatch?_eq_none_iff {value : α} {entry : PropertyKey × Kind} :
    mismatch? value entry = none ↔ Reflection.propertyTag value entry.1 = entry.2.tag := by
  unfold mismatch?
  by_cases h : Reflection.propertyTag value entry.1 = entry.2.tag
  · simp [h]
  · simp [h]

theorem firstMismatch?_eq_none_iff {value : α} {expected : Expectations} :
    firstMismatch? value expected = none ↔
      ∀ entry ∈ expected.entries, Reflection.propertyTag value entry.1 = entry.2.tag := by
  simp only [firstMismatch?, List.findSome?_eq_none_iff, mismatch?_eq_none_iff]

/-- A check passes silently, fails on an object with the first mismatch as its one event, or fails
silently because the value is not an object. -/
theorem check_cases (value : α) (expected : Expectations) :
    (isObject value = true ∧ firstMismatch? value expected = none ∧
      check value expected = .silent true) ∨
    (∃ mismatch, isObject value = true ∧ firstMismatch? value expected = some mismatch ∧
      check value expected = ⟨false, [.propertyMismatch mismatch]⟩) ∨
    (isObject value = false ∧ check value expected = .silent false) := by
  unfold check
  cases isObject value with
  | false => exact Or.inr (Or.inr ⟨rfl, rfl⟩)
  | true =>
    cases firstMismatch? value expected with
    | none => exact Or.inl ⟨rfl, rfl, rfl⟩
    | some mismatch => exact Or.inr (Or.inl ⟨mismatch, rfl, rfl, rfl⟩)

/-- What passes does so without events. -/
theorem check_eq_silent_of_passes {value : α} {expected : Expectations}
    (h : (check value expected).result = true) : check value expected = .silent true := by
  rcases check_cases value expected with ⟨-, -, heq⟩ | ⟨_, -, -, heq⟩ | ⟨-, heq⟩
  · exact heq
  · rw [heq] at h
    contradiction
  · rw [heq] at h
    contradiction

/-- A check passes exactly for objects whose listed properties have the expected tags. -/
theorem check_result_iff {value : α} {expected : Expectations} :
    (check value expected).result = true ↔
      isObject value = true ∧
        ∀ key kind, expected.get? key = some kind →
          Reflection.propertyTag value key = kind.tag := by
  have hentries : (∀ entry ∈ expected.entries,
      Reflection.propertyTag value entry.1 = entry.2.tag) ↔
      ∀ key kind, expected.get? key = some kind → Reflection.propertyTag value key = kind.tag := by
    simp only [OrderedMap.get?_eq_some_iff, Prod.forall]
  rw [← hentries, ← firstMismatch?_eq_none_iff]
  rcases check_cases value expected with
    ⟨hobject, hnone, h⟩ | ⟨mismatch, -, hsome, h⟩ | ⟨hobject, h⟩
  · simp [h, hobject, hnone, Traced.silent]
  · simp [h, hsome]
  · simp [h, hobject, Traced.silent]

/-! ## Sequences -/

/-- An element that passes is told nothing of, so that the search goes on behind it silently. -/
theorem firstFailure_cons_of_passes {expected : Expectations} {element : α}
    (h : (check element expected).result = true) (index : Nat) (rest : List α) :
    firstFailure expected index (element :: rest) = firstFailure expected (index + 1) rest := by
  rw [firstFailure, check_eq_silent_of_passes h]
  rfl

/-- The search passes over elements that pass, and tells nothing of them. -/
theorem firstFailure_append {expected : Expectations} {before : List α}
    (h : ∀ earlier ∈ before, (check earlier expected).result = true) (index : Nat)
    (rest : List α) :
    firstFailure expected index (before ++ rest) =
      firstFailure expected (index + before.length) rest := by
  induction before generalizing index with
  | nil => rfl
  | cons element before ih =>
    rcases List.forall_mem_cons.mp h with ⟨hpass, hlater⟩
    rw [List.cons_append, firstFailure_cons_of_passes hpass, ih hlater, List.length_cons,
      Nat.add_assoc, Nat.add_comm 1]

/-- Where all elements pass, the search ends without a failure and without events. -/
theorem firstFailure_eq_silent_of_passes {expected : Expectations} {elements : List α}
    (h : ∀ element ∈ elements, (check element expected).result = true) (index : Nat) :
    firstFailure expected index elements = .silent none := by
  have hend := firstFailure_append h index []
  rwa [List.append_nil] at hend

/-- The search ends at the first element that fails, with the events of the check of that element. -/
theorem firstFailure_eq_of_first_failing {expected : Expectations} {before : List α} {element : α}
    (hbefore : ∀ earlier ∈ before, (check earlier expected).result = true)
    (hfails : (check element expected).result = false) (index : Nat) (after : List α) :
    firstFailure expected index (before ++ element :: after) =
      ⟨some (index + before.length), (check element expected).events⟩ := by
  rw [firstFailure_append hbefore, firstFailure, if_neg (Bool.eq_false_iff.mp hfails)]

/-- All elements pass, or there is a first one that fails. -/
theorem passes_or_exists_first_failing (expected : Expectations) (elements : List α) :
    (∀ element ∈ elements, (check element expected).result = true) ∨
      ∃ before element after, elements = before ++ element :: after ∧
        (∀ earlier ∈ before, (check earlier expected).result = true) ∧
        (check element expected).result = false := by
  induction elements with
  | nil => exact Or.inl nofun
  | cons head rest ih =>
    cases hhead : (check head expected).result with
    | false => exact Or.inr ⟨[], head, rest, rfl, nofun, hhead⟩
    | true =>
      rcases ih with hrest | ⟨before, element, after, rfl, hbefore, hfails⟩
      · exact Or.inl (List.forall_mem_cons.mpr ⟨hhead, hrest⟩)
      · exact Or.inr ⟨head :: before, element, after, rfl,
          List.forall_mem_cons.mpr ⟨hhead, hbefore⟩, hfails⟩

/-- A check of a sequence passes exactly when that of each element does. -/
theorem checkArray_result_iff {value : α} {expected : Expectations} :
    (checkArray value expected).result = true ↔
      ∃ elements, Reflection.elements value = some elements ∧
        ∀ element ∈ elements, (check element expected).result = true := by
  unfold checkArray
  cases Reflection.elements value with
  | none => simp [Traced.silent]
  | some elements =>
    simp only [Option.some.injEq, exists_eq_left']
    rcases passes_or_exists_first_failing expected elements with
      hpasses | ⟨before, element, after, rfl, hbefore, hfails⟩
    · rw [firstFailure_eq_silent_of_passes hpasses]
      simpa [Traced.silent] using hpasses
    · rw [firstFailure_eq_of_first_failing hbefore hfails]
      constructor
      · nofun
      · intro hchecks
        have hpass := hchecks element (List.mem_append_right before List.mem_cons_self)
        rw [hfails] at hpass
        contradiction

end Guard

/-! ## Arrays -/

/-- The documents with elements are the arrays. -/
theorem Document.elements_eq_some_iff {document : Document} {elements : List Document} :
    Reflection.elements document = some elements ↔ document = array elements := by
  change document.elements? = some elements ↔ document = array elements
  cases document <;> simp [elements?]

/-- The values with elements are the arrays. -/
theorem Value.elements_eq_some_iff {value : Value} {elements : List Value} :
    Reflection.elements value = some elements ↔ value = array elements := by
  change value.elements? = some elements ↔ value = array elements
  cases value <;> simp [elements?]

end DuckTyping
