import DuckTyping.Proofs.Conversion.Reading
import DuckTyping.Proofs.Guard.Verdict
import DuckTyping.Shape.Catalogue

/-!
# Agreement of the ways to narrow

A document can be narrowed against a contract or to a shape, alone or as an array.  For an array
the whole is checked before anything is read, whereas elements that are narrowed one by one are
checked and read in turn.  The results agree all the same; of two failures the check wins, wherever
in the array it fails.

Main definitions:

- `guarded`: reading what passes a check, and telling of what does not; `ensure` and `ensureArray`
  are both of this form.

Main results:

- `guarded_eq_ok_iff`, `guarded_eq_mismatch_iff`, `guarded_eq_conversion_iff`: how narrowing to a
  shape can end.
- `ensureArray_eq_ok_iff`, `ensureArray_mismatch_iff`, `ensureArray_eq_conversion_iff`: narrowing an
  array in terms of narrowing its elements.
- `narrowing_entry_points_agree`: the four ways to narrow agree, with the events of each.
-/

namespace DuckTyping

variable {α : Type}

/-! ## Arrays of documents -/

theorem Guard.checkArray_document_result_iff {document : Document} {expected : Expectations} :
    (checkArray document expected).result = true ↔
      ∃ elements, document = .array elements ∧
        ∀ element ∈ elements, (check element expected).result = true := by
  simp only [checkArray_result_iff, Document.elements_eq_some_iff]

/-! ## Narrowing against a contract -/

section Narrow

variable {read : Reader α} {document : Document} {expected : Expectations}

/-- A document is narrowed exactly when it passes the check and is read. -/
theorem narrow_result_eq_some_iff {value : α} :
    (narrow read document expected).result = some value ↔
      (Guard.check document expected).result = true ∧ read document = .ok value := by
  unfold narrow
  cases hresult : (Guard.check document expected).result <;>
    cases read document <;> simp [hresult, Except.toOption]

theorem narrowArray_result_eq_some_iff {values : List α} :
    (narrowArray read document expected).result = some values ↔
      (Guard.checkArray document expected).result = true ∧
        Reader.array read document = .ok values := by
  unfold narrowArray
  cases hresult : (Guard.checkArray document expected).result <;>
    cases Reader.array read document <;> simp [hresult, Except.toOption]

end Narrow

/-! ## Narrowing to a shape -/

/-- Give what was converted if a check passed, and otherwise tell of a mismatch with a shape. -/
def guarded (checked : Traced Bool) (converted : Except ConversionError α) (shapeName : String)
    (rejection : Event) : Traced (Except GuardError α) :=
  if checked.result then
    ⟨converted.mapError .conversion, checked.events⟩
  else
    ⟨.error (.shapeMismatch shapeName), checked.events ++ [rejection]⟩

theorem ensure_eq_guarded (shape : Shape α) (document : Document) :
    ensure shape document =
      guarded (Guard.check document shape.expectations) (shape.read document) shape.name
        (.valueRejected shape.name) :=
  rfl

theorem ensureArray_eq_guarded (shape : Shape α) (document : Document) :
    ensureArray shape document =
      guarded (Guard.checkArray document shape.expectations) (Reader.array shape.read document)
        shape.arrayName (.arrayRejected shape.name) :=
  rfl

section Guarded

variable {checked : Traced Bool} {converted : Except ConversionError α} {shapeName : String}
  {rejection : Event}

/-- A value comes of a passed check and a successful conversion. -/
theorem guarded_eq_ok_iff {value : α} :
    (guarded checked converted shapeName rejection).result = .ok value ↔
      checked.result = true ∧ converted = .ok value := by
  unfold guarded
  cases checked.result <;> cases converted <;> simp [Except.mapError]

theorem guarded_eq_mismatch_iff {name : String} :
    (guarded checked converted shapeName rejection).result = .error (.shapeMismatch name) ↔
      checked.result = false ∧ name = shapeName := by
  unfold guarded
  cases checked.result <;> cases converted <;> simp [Except.mapError, eq_comm]

theorem guarded_eq_conversion_iff {error : ConversionError} :
    (guarded checked converted shapeName rejection).result = .error (.conversion error) ↔
      checked.result = true ∧ converted = .error error := by
  unfold guarded
  cases checked.result <;> cases converted <;> simp [Except.mapError]

theorem guarded_mismatch_iff :
    (∃ name, (guarded checked converted shapeName rejection).result =
      .error (.shapeMismatch name)) ↔ checked.result = false := by
  simp [guarded_eq_mismatch_iff]

/-- The rejection is told after the events of the check exactly when there is a mismatch, and
nothing is told after them otherwise. -/
theorem guarded_events :
    ((guarded checked converted shapeName rejection).events = checked.events ++ [rejection] ↔
      ∃ name, (guarded checked converted shapeName rejection).result =
        .error (.shapeMismatch name)) ∧
    ((guarded checked converted shapeName rejection).events = checked.events ↔
      ¬∃ name, (guarded checked converted shapeName rejection).result =
        .error (.shapeMismatch name)) := by
  rw [guarded_mismatch_iff]
  unfold guarded
  cases checked.result <;> simp

end Guarded

/-! ## Agreement -/

/-- An array is narrowed to a shape exactly when each of its elements is. -/
theorem ensureArray_eq_ok_iff {shape : Shape α} {document : Document} {values : List α} :
    (ensureArray shape document).result = .ok values ↔
      ∃ elements, document = .array elements ∧
        List.Forall₂ (fun element value => (ensure shape element).result = .ok value)
          elements values := by
  simp only [ensureArray_eq_guarded, ensure_eq_guarded, guarded_eq_ok_iff, List.forall₂_and_left,
    Guard.checkArray_document_result_iff, Reader.array_eq_ok_iff, Reader.each_eq_ok_iff]
  constructor
  · rintro ⟨⟨elements, rfl, hchecks⟩, others, heq, hreads⟩
    rw [Document.array.injEq] at heq
    subst heq
    exact ⟨elements, rfl, hchecks, hreads⟩
  · rintro ⟨elements, rfl, hchecks, hreads⟩
    exact ⟨⟨elements, rfl, hchecks⟩, elements, rfl, hreads⟩

/-- Narrowing to an array of a shape is a mismatch exactly when the document is not an array or
some element is a mismatch. -/
theorem ensureArray_mismatch_iff {shape : Shape α} {document : Document} :
    (∃ name, (ensureArray shape document).result = .error (.shapeMismatch name)) ↔
      (∀ elements, document ≠ .array elements) ∨
        ∃ elements, document = .array elements ∧ ∃ element ∈ elements, ∃ name,
          (ensure shape element).result = .error (.shapeMismatch name) := by
  simp only [ensureArray_eq_guarded, ensure_eq_guarded, guarded_mismatch_iff]
  rw [← Bool.not_eq_true, Guard.checkArray_document_result_iff]
  cases document with
  | array elements => simp
  | null | bool _ | number _ | string _ | object _ => simp

/-- Narrowing to an array of a shape ends in a conversion error exactly when no element is a
mismatch and the first element that is not narrowed ends in that error. -/
theorem ensureArray_eq_conversion_iff {shape : Shape α} {document : Document}
    {error : ConversionError} :
    (ensureArray shape document).result = .error (.conversion error) ↔
      ∃ before element after, document = .array (before ++ element :: after) ∧
        (∀ earlier ∈ before, ∃ value, (ensure shape earlier).result = .ok value) ∧
        (ensure shape element).result = .error (.conversion error) ∧
        ∀ later ∈ after, ¬∃ name, (ensure shape later).result = .error (.shapeMismatch name) := by
  simp only [ensureArray_eq_guarded, ensure_eq_guarded, guarded_eq_conversion_iff,
    guarded_eq_ok_iff, guarded_mismatch_iff, Guard.checkArray_document_result_iff,
    Bool.not_eq_false]
  constructor
  · rintro ⟨⟨elements, rfl, hchecks⟩, herror⟩
    rcases Reader.each_eq_error_iff.mp herror with
      ⟨before, element, after, rfl, hbefore, helement⟩
    refine ⟨before, element, after, rfl, ?_, ⟨hchecks element (by simp), helement⟩, ?_⟩
    · intro earlier hearlier
      rcases hbefore earlier hearlier with ⟨value, hvalue⟩
      exact ⟨value, hchecks earlier (by simp [hearlier]), hvalue⟩
    · intro later hlater
      exact hchecks later (by simp [hlater])
  · rintro ⟨before, element, after, rfl, hbefore, ⟨hcheck, helement⟩, hafter⟩
    -- The check reaches the elements after the one whose conversion fails.
    have hchecks : ∀ other ∈ before ++ element :: after,
        (Guard.check other shape.expectations).result = true := by
      intro other hother
      rcases List.mem_append.mp hother with hmem | hmem
      · rcases hbefore other hmem with ⟨value, hpass, -⟩
        exact hpass
      · rcases List.mem_cons.mp hmem with rfl | hmem
        · exact hcheck
        · exact hafter other hmem
    have hreads : ∀ earlier ∈ before, ∃ value, shape.read earlier = .ok value := by
      intro earlier hearlier
      rcases hbefore earlier hearlier with ⟨value, -, hvalue⟩
      exact ⟨value, hvalue⟩
    exact ⟨⟨_, rfl, hchecks⟩,
      Reader.each_eq_error_iff.mpr ⟨before, element, after, rfl, hreads, helement⟩⟩

/-- The ways to narrow agree for every shape, whatever its reader does.

- A document is narrowed to a shape exactly when it is narrowed against the contract of the shape,
  to the same value; likewise for arrays.
- An array is narrowed exactly when each of its elements is, to the values of the elements.
- An array is a mismatch exactly when it is no array or some element is a mismatch, wherever that
  element stands; any other failure is the conversion error of the first element that fails.
- Narrowing against a contract is told by the events of its check.  Narrowing to a shape is told by
  one debug event more exactly when it ends in a mismatch. -/
theorem narrowing_entry_points_agree (shape : Shape α) (document : Document) :
    (∀ value, (ensure shape document).result = .ok value ↔
      (narrow shape.read document shape.expectations).result = some value) ∧
    (∀ values, ((ensureArray shape document).result = .ok values ↔
        (narrowArray shape.read document shape.expectations).result = some values) ∧
      ((ensureArray shape document).result = .ok values ↔
        ∃ elements, document = .array elements ∧ elements.length = values.length ∧
          ∀ i (hi : i < elements.length) (hi' : i < values.length),
            (ensure shape elements[i]).result = .ok values[i])) ∧
    ((∃ name, (ensureArray shape document).result = .error (.shapeMismatch name)) ↔
      (∀ elements, document ≠ .array elements) ∨
        ∃ elements, document = .array elements ∧ ∃ element ∈ elements, ∃ name,
          (ensure shape element).result = .error (.shapeMismatch name)) ∧
    (∀ error, (ensureArray shape document).result = .error (.conversion error) ↔
      ∃ before element after, document = .array (before ++ element :: after) ∧
        (∀ earlier ∈ before, ∃ value, (ensure shape earlier).result = .ok value) ∧
        (ensure shape element).result = .error (.conversion error) ∧
        ∀ later ∈ after, ¬∃ name, (ensure shape later).result = .error (.shapeMismatch name)) ∧
    (∀ expected, (narrow shape.read document expected).events =
        (Guard.check document expected).events ∧
      (narrowArray shape.read document expected).events =
        (Guard.checkArray document expected).events) ∧
    ((ensure shape document).events =
        (Guard.check document shape.expectations).events ++ [.valueRejected shape.name] ↔
      ∃ name, (ensure shape document).result = .error (.shapeMismatch name)) ∧
    ((ensure shape document).events = (Guard.check document shape.expectations).events ↔
      ¬∃ name, (ensure shape document).result = .error (.shapeMismatch name)) ∧
    ((ensureArray shape document).events =
        (Guard.checkArray document shape.expectations).events ++ [.arrayRejected shape.name] ↔
      ∃ name, (ensureArray shape document).result = .error (.shapeMismatch name)) ∧
    ((ensureArray shape document).events = (Guard.checkArray document shape.expectations).events ↔
      ¬∃ name, (ensureArray shape document).result = .error (.shapeMismatch name)) ∧
    (Event.valueRejected shape.name).level = .debug ∧
    (Event.arrayRejected shape.name).level = .debug := by
  refine ⟨?_, ?_, ensureArray_mismatch_iff, fun _ => ensureArray_eq_conversion_iff,
    fun _ => ⟨rfl, rfl⟩, guarded_events.1, guarded_events.2, guarded_events.1, guarded_events.2,
    rfl, rfl⟩
  · intro value
    rw [ensure_eq_guarded, guarded_eq_ok_iff, narrow_result_eq_some_iff]
  · intro values
    constructor
    · rw [ensureArray_eq_guarded, guarded_eq_ok_iff, narrowArray_result_eq_some_iff]
    · rw [ensureArray_eq_ok_iff]
      simp only [List.forall₂_iff_get, List.get_eq_getElem]

/-- Labelled things with an element that passes the check but lacks its label: alone it ends in a
conversion error, and in front of an element that fails the check it ends in a mismatch.  In a whole
array of labelled things the element at position zero is narrowed as it is alone. -/
theorem narrowing_entry_points_agree_labelled :
    (ensure Labelled.shape (.object [("id", .number (.integer 1 (by decide)))])).result =
        .error (.conversion (.missingField "label")) ∧
      (∃ name, (ensureArray Labelled.shape
          (.array [.object [("id", .number (.integer 1 (by decide)))], .bool true])).result =
        .error (.shapeMismatch name)) ∧
      (ensure Labelled.shape
          (.object [("id", .number (.integer 1 (by decide))), ("label", .string "a")])).result =
        .ok ⟨1, "a"⟩ := by
  refine ⟨by rfl, ?_, ?_⟩
  · have hmismatch := (narrowing_entry_points_agree Labelled.shape
      (.array [.object [("id", .number (.integer 1 (by decide)))], .bool true])).2.2.1
    exact hmismatch.mpr (Or.inr ⟨_, rfl, .bool true, by simp, Labelled.shape.name, rfl⟩)
  · have harray := (narrowing_entry_points_agree Labelled.shape (.array
      [.object [("id", .number (.integer 1 (by decide))), ("label", .string "a")]])).2.1
    rcases (harray [⟨1, "a"⟩]).2.mp rfl with ⟨elements, heq, -, helements⟩
    rw [Document.array.injEq] at heq
    subst heq
    exact helements 0 (by decide) (by decide)

end DuckTyping
