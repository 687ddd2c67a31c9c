import DuckTyping.Proofs.Bindings
import DuckTyping.Proofs.Guard.OwnBinding

/-!
# What the checks tell of a failure

A check of an object goes through the entries of a contract by increasing key and stops at the
first that is not met; a check of a sequence goes through the elements and stops at the first that
fails.  The events of a failed check therefore determine how far it came: whatever stands before
what they name is as it should be, and whatever stands behind it plays no part.

Main definitions:

- `Guard.Unmet`: what a value binds does not meet an entry of a contract.
- `Guard.Diagnosed`, `Guard.ArrayDiagnosed`: what the two checks tell, field by field.

Main results:

- `Guard.firstMismatch?_eq_some_iff`: the first mismatch is under the least key that is not met.
- `Guard.checkArray_eq_of_first_failing`: the first failing element decides what is told.
- `Guard.check_tells_least_unmet`: verdict and events of the check of a document or a value.
- `Guard.checkArray_tells_first_failing`: verdict and events of the check of a sequence.
-/

namespace DuckTyping
namespace Guard

variable {α : Type} [Reflection α]

/-! ## The first mismatch -/

theorem mismatch?_eq_some_iff {value : α} {entry : PropertyKey × Kind} {mismatch : Mismatch} :
    mismatch? value entry = some mismatch ↔
      mismatch = ⟨entry.1, entry.2, Reflection.propertyTag value entry.1⟩ ∧
        Reflection.propertyTag value entry.1 ≠ entry.2.tag := by
  by_cases h : Reflection.propertyTag value entry.1 = entry.2.tag
  · have hnone : mismatch? value entry = none := mismatch?_eq_none_iff.mpr h
    simp [hnone, h]
  · have hsome : mismatch? value entry =
        some ⟨entry.1, entry.2, Reflection.propertyTag value entry.1⟩ := by
      simp [mismatch?, h]
    simp [hsome, h, eq_comm]

/-- The first mismatch is under the least key whose property is not of the listed kind. -/
theorem firstMismatch?_eq_some_iff {value : α} {expected : Expectations} {mismatch : Mismatch} :
    firstMismatch? value expected = some mismatch ↔
      expected.get? mismatch.key = some mismatch.expected ∧
        mismatch.found = Reflection.propertyTag value mismatch.key ∧
        mismatch.found ≠ mismatch.expected.tag ∧
        ∀ key kind, expected.get? key = some kind → compare key mismatch.key = .lt →
          Reflection.propertyTag value key = kind.tag := by
  simp only [firstMismatch?, List.findSome?_eq_some_iff, mismatch?_eq_some_iff,
    mismatch?_eq_none_iff, OrderedMap.get?_eq_some_iff]
  have hsorted := expected.sorted
  constructor
  · rintro ⟨before, entry, after, hsplit, ⟨rfl, hne⟩, hbefore⟩
    rw [hsplit] at hsorted ⊢
    refine ⟨List.mem_append_right before List.mem_cons_self, rfl, hne, ?_⟩
    intro key kind hlisted hlt
    exact hbefore (key, kind) (hsorted.mem_before_iff.mpr ⟨hlisted, hlt⟩)
  · rintro ⟨hlisted, hfound, hne, hsmaller⟩
    rcases List.append_of_mem hlisted with ⟨before, after, hsplit⟩
    rw [hsplit] at hsorted hsmaller
    refine ⟨before, _, after, hsplit, ⟨?_, ?_⟩, ?_⟩
    · rw [← hfound]
    · rwa [← hfound]
    · intro entry hentry
      rcases hsorted.mem_before_iff.mp hentry with ⟨hmem, hlt⟩
      exact hsmaller entry.1 entry.2 hmem hlt

/-- The mismatch that the events of a check tell is the first one of an object. -/
theorem propertyMismatch_mem_events_iff {value : α} {expected : Expectations}
    {mismatch : Mismatch} :
    .propertyMismatch mismatch ∈ (check value expected).events ↔
      isObject value = true ∧ firstMismatch? value expected = some mismatch := by
  rcases check_cases value expected with
    ⟨-, hnone, heq⟩ | ⟨found, hobject, hsome, heq⟩ | ⟨hobject, heq⟩
  · simp [heq, hnone, Traced.silent]
  · simp [heq, hobject, hsome, eq_comm]
  · simp [heq, hobject, Traced.silent]

/-- An object that fails has a first mismatch, and its one event tells it. -/
theorem exists_firstMismatch_of_fails {value : α} {expected : Expectations}
    (hobject : isObject value = true) (hfails : (check value expected).result = false) :
    ∃ mismatch, firstMismatch? value expected = some mismatch ∧
      (check value expected).events = [.propertyMismatch mismatch] := by
  rcases check_cases value expected with
    ⟨-, -, heq⟩ | ⟨mismatch, -, hsome, heq⟩ | ⟨hnoObject, -⟩
  · rw [heq] at hfails
    contradiction
  · rw [heq]
    exact ⟨mismatch, hsome, rfl⟩
  · rw [hobject] at hnoObject
    contradiction

/-! ## Entries that are not met -/

/-- What is bound does not meet an entry of a contract: nothing is bound under its key, or null or
undefined is, or something of another kind. -/
inductive Unmet (binds : PropertyKey → TypeTag → Prop) (key : PropertyKey) (kind : Kind) : Prop where
  | missing (unbound : ∀ tag, ¬binds key tag)
  | nullish (tag : TypeTag) (bound : binds key tag) (isNullish : tag.isNullish = true)
  | otherKind (tag : TypeTag) (bound : binds key tag) (ne : tag ≠ kind.tag)

section Bindings

variable {value : α} {binds : PropertyKey → TypeTag → Prop}
  (sound : ∀ key tag, binds key tag → Reflection.propertyTag value key = tag)
  (complete : ∀ key, Reflection.propertyTag value key ≠ .undefined →
    binds key (Reflection.propertyTag value key))

include sound complete

/-- An entry is met by what is bound exactly when reflection finds the tag of its kind. -/
theorem binds_tag_iff {key : PropertyKey} {kind : Kind} :
    binds key kind.tag ↔ Reflection.propertyTag value key = kind.tag := by
  constructor
  · exact sound key kind.tag
  · intro htag
    have hne : Reflection.propertyTag value key ≠ .undefined := by
      rw [htag]
      exact kind.tag_ne_undefined
    have hbound := complete key hne
    rwa [htag] at hbound

/-- An entry is not met exactly when reflection finds another tag than that of its kind. -/
theorem unmet_iff {key : PropertyKey} {kind : Kind} :
    Unmet binds key kind ↔ Reflection.propertyTag value key ≠ kind.tag := by
  constructor
  · intro hunmet htag
    have hbound : binds key kind.tag := (binds_tag_iff sound complete).mpr htag
    cases hunmet with
    | missing unbound => exact unbound kind.tag hbound
    | nullish tag bound isNullish =>
      have heq : tag = kind.tag := (sound key tag bound).symm.trans htag
      rw [heq, kind.isNullish_tag] at isNullish
      contradiction
    | otherKind tag bound ne => exact ne ((sound key tag bound).symm.trans htag)
  · intro hne
    by_cases hbound : ∃ tag, binds key tag
    · rcases hbound with ⟨tag, hbound⟩
      rw [sound key tag hbound] at hne
      exact .otherKind tag hbound hne
    · exact .missing (not_exists.mp hbound)

end Bindings

/-! ## The check of one value -/

/-- What the check of a value tells, in terms of what the value binds. -/
structure Diagnosed (value : α) (binds : PropertyKey → TypeTag → Prop) (expected : Expectations) :
    Prop where
  /-- Nothing is told of a value that passes. -/
  passes : (check value expected).result = true → (check value expected).events = []
  /-- A value that is no object fails, and nothing is told of it. -/
  noObject : isObject value = false →
    (check value expected).result = false ∧ (check value expected).events = []
  /-- Of an object that fails, one event tells the least key whose entry is not met, the kind that
  is listed for the key, and the tag that is found under it.  The entries under smaller keys are
  met. -/
  fails : isObject value = true → (check value expected).result = false →
    ∃ key kind, expected.get? key = some kind ∧
      (check value expected).events =
        [.propertyMismatch ⟨key, kind, Reflection.propertyTag value key⟩] ∧
      Unmet binds key kind ∧
      (∀ other asked, expected.get? other = some asked → Unmet binds other asked →
        key = other ∨ compare key other = .lt) ∧
      ∀ other asked, expected.get? other = some asked → compare other key = .lt →
        binds other asked.tag

/-- Where reflection answers by what is bound, a check tells the least entry that is not met. -/
theorem diagnosed_of_binds {value : α} {binds : PropertyKey → TypeTag → Prop}
    (sound : ∀ key tag, binds key tag → Reflection.propertyTag value key = tag)
    (complete : ∀ key, Reflection.propertyTag value key ≠ .undefined →
      binds key (Reflection.propertyTag value key)) (expected : Expectations) :
    Diagnosed value binds expected where
  passes hpass := by
    rw [check_eq_silent_of_passes hpass, Traced.silent]
  noObject hnoObject := by
    simp [check, hnoObject, Traced.silent]
  fails hobject hfails := by
    rcases exists_firstMismatch_of_fails hobject hfails with
      ⟨⟨key, kind, found⟩, hfirst, hevents⟩
    rcases firstMismatch?_eq_some_iff.mp hfirst with ⟨hlisted, hfound, hne, hsmaller⟩
    simp only at hlisted hfound hne hsmaller
    subst hfound
    refine ⟨key, kind, hlisted, hevents, (unmet_iff sound complete).mpr hne, ?_, ?_⟩
    · intro other asked hasked hunmet
      have htag := (unmet_iff sound complete).mp hunmet
      apply eq_or_compare_lt
      intro hlt
      exact htag (hsmaller other asked hasked hlt)
    · intro other asked hasked hlt
      exact (binds_tag_iff sound complete).mpr (hsmaller other asked hasked hlt)

/-- The check of a document or of a value tells nothing of what passes or is no object, and of an
object that fails the least key whose entry is not met by what the object binds. -/
theorem check_tells_least_unmet :
    (∀ (document : Document) (expected : Expectations), document.WellFormed →
      Diagnosed document document.Binds expected) ∧
    (∀ (value : Value) (expected : Expectations), value.WellFormed →
      Diagnosed value value.Binds expected) := by
  constructor
  · intro document expected hwf
    exact diagnosed_of_binds (fun _ _ => OrderedDocument.propertyTag_of_binds ⟨document, hwf⟩)
      (fun _ => Document.binds_propertyTag) expected
  · intro value expected hwf
    exact diagnosed_of_binds (fun _ _ => OrderedValue.propertyTag_of_binds ⟨value, hwf⟩)
      (fun _ => Value.binds_propertyTag) expected

/-- Null under a name and nothing under a symbol are both not met.  The event tells the name, which
comes before the symbol. -/
theorem check_tells_least_unmet_null :
    (Document.object [("a", .null)]).WellFormed ∧
      (check (Document.object [("a", .null)])
        (.ofList [(.symbol ⟨1⟩, .number), (.name "a", .object)])).events =
          [.propertyMismatch ⟨.name "a", .object, .null⟩] ∧
      Unmet (Document.object [("a", .null)]).Binds (.name "a") .object := by
  have hwf : (Document.object [("a", .null)]).WellFormed := by
    simp [Document.WellFormed, Document.MembersWellFormed, Entries.Sorted]
  have hevents : (check (Document.object [("a", .null)])
      (.ofList [(.symbol ⟨1⟩, .number), (.name "a", .object)])).events =
        [.propertyMismatch ⟨.name "a", .object, .null⟩] := by decide
  have hdiagnosed := check_tells_least_unmet.1 _
    (.ofList [(.symbol ⟨1⟩, .number), (.name "a", .object)]) hwf
  rcases hdiagnosed.fails (by decide) (by decide) with ⟨key, kind, -, htold, hunmet, -, -⟩
  rw [hevents] at htold
  simp only [List.cons.injEq, Event.propertyMismatch.injEq, Mismatch.mk.injEq, and_true] at htold
  rcases htold with ⟨rfl, rfl, -⟩
  exact ⟨hwf, hevents, hunmet⟩

/-! ## The first failing element -/

section FirstFailing

variable {value : α} {expected : Expectations} {before after : List α} {element : α}

/-- The check of a sequence tells what the check of its first failing element tells, and then the
position of that element. -/
theorem checkArray_eq_of_first_failing
    (helements : Reflection.elements value = some (before ++ element :: after))
    (hbefore : ∀ earlier ∈ before, (check earlier expected).result = true)
    (hfails : (check element expected).result = false) :
    checkArray value expected = ⟨false, (check element expected).events ++
      [.elementMismatch before.length (before ++ element :: after).length]⟩ := by
  have hsearch := firstFailure_eq_of_first_failing hbefore hfails 0 after
  rw [Nat.zero_add] at hsearch
  simp only [checkArray, helements, hsearch]

end FirstFailing

/-- A sequence that fails has a first failing element. -/
theorem exists_first_failing {value : α} {expected : Expectations} {elements : List α}
    (helements : Reflection.elements value = some elements)
    (hfails : (checkArray value expected).result = false) :
    ∃ before element after, elements = before ++ element :: after ∧
      (∀ earlier ∈ before, (check earlier expected).result = true) ∧
      (check element expected).result = false := by
  rcases passes_or_exists_first_failing expected elements with hpasses | hfirst
  · have hpass := checkArray_result_iff.mpr ⟨elements, helements, hpasses⟩
    rw [hfails] at hpass
    contradiction
  · exact hfirst

/-- A check tells one event of an object that fails, and none of what is no object. -/
theorem length_events_of_fails {value : α} {expected : Expectations}
    (hfails : (check value expected).result = false) :
    (check value expected).events.length = if isObject value = true then 1 else 0 := by
  rcases check_cases value expected with
    ⟨-, -, heq⟩ | ⟨mismatch, hobject, -, heq⟩ | ⟨hnoObject, heq⟩
  · rw [heq] at hfails
    contradiction
  · simp [heq, hobject]
  · simp [heq, hnoObject, Traced.silent]

/-! ## The check of a sequence -/

/-- What the check of sequences tells, where sequences are the values that a constructor builds. -/
structure ArrayDiagnosed (array : List α → α) (value : α) (expected : Expectations) : Prop where
  /-- The arrays pass all of whose elements pass. -/
  passes_iff : (checkArray value expected).result = true ↔
    ∃ elements, value = array elements ∧
      ∀ element ∈ elements, (check element expected).result = true
  /-- Nothing is told of a value that passes. -/
  passes : (checkArray value expected).result = true → (checkArray value expected).events = []
  /-- A value that is no array fails, and nothing is told of it. -/
  noArray : (∀ elements, value ≠ array elements) →
    (checkArray value expected).result = false ∧ (checkArray value expected).events = []
  /-- Of an array that fails, the events of its first failing element are told, at most one, and
  then the position of that element and the length of the array.  The elements before it pass, and
  those after it play no part: others in their place would change nothing. -/
  fails : ∀ elements, value = array elements → (checkArray value expected).result = false →
    ∃ before element after, elements = before ++ element :: after ∧
      before.length < elements.length ∧
      (∀ earlier ∈ before, (check earlier expected).result = true) ∧
      (check element expected).result = false ∧
      (checkArray value expected).events = (check element expected).events ++
        [.elementMismatch before.length elements.length] ∧
      (check element expected).events.length = (if isObject element = true then 1 else 0) ∧
      ∀ others, others.length = after.length →
        checkArray (array (before ++ element :: others)) expected = checkArray value expected

/-- Where the sequences are the values that a constructor builds, the check of a sequence tells its
first failing element. -/
theorem arrayDiagnosed_of_elements {array : List α → α}
    (harray : ∀ {value : α} {elements : List α},
      Reflection.elements value = some elements ↔ value = array elements)
    (value : α) (expected : Expectations) : ArrayDiagnosed array value expected where
  passes_iff := by
    simp only [checkArray_result_iff, harray]
  passes hpass := by
    rcases checkArray_result_iff.mp hpass with ⟨elements, helements, hchecks⟩
    simp only [checkArray, helements, firstFailure_eq_silent_of_passes hchecks, Traced.silent]
  noArray hother := by
    have helements : Reflection.elements value = none := by
      rw [Option.eq_none_iff_forall_ne_some]
      intro elements hsome
      exact hother elements (harray.mp hsome)
    simp [checkArray, helements, Traced.silent]
  fails elements hvalue hfails := by
    have helements : Reflection.elements value = some elements := harray.mpr hvalue
    rcases exists_first_failing helements hfails with
      ⟨before, element, after, rfl, hbefore, hfailing⟩
    have hwhole := checkArray_eq_of_first_failing helements hbefore hfailing
    refine ⟨before, element, after, rfl, ?_, hbefore, hfailing, ?_,
      length_events_of_fails hfailing, ?_⟩
    · rw [List.length_append, List.length_cons]
      omega
    · rw [hwhole]
    · intro others hlength
      have hothers : Reflection.elements (array (before ++ element :: others)) =
          some (before ++ element :: others) := harray.mpr rfl
      rw [checkArray_eq_of_first_failing hothers hbefore hfailing, hwhole]
      simp only [List.length_append, List.length_cons, hlength]

/-- The check of sequences passes the arrays all of whose elements pass and tells nothing of them,
nor of what is no array.  Of an array that fails it tells the first failing element. -/
theorem checkArray_tells_first_failing :
    (∀ (document : Document) (expected : Expectations),
      ArrayDiagnosed Document.array document expected) ∧
    (∀ (value : Value) (expected : Expectations), ArrayDiagnosed Value.array value expected) := by
  constructor
  · exact arrayDiagnosed_of_elements Document.elements_eq_some_iff
  · exact arrayDiagnosed_of_elements Value.elements_eq_some_iff

/-- The second of three elements is no object, so that nothing but its position is told of it, and
whatever stands in the place of the third would change nothing. -/
theorem checkArray_tells_first_failing_second :
    (checkArray (Value.array [.object [(.name "a", .string "x")], .null, .bool true])
      (.ofList [(.name "a", .string)])).events = [.elementMismatch 1 3] ∧
    ∀ other, checkArray (Value.array [.object [(.name "a", .string "x")], .null, other])
        (.ofList [(.name "a", .string)]) =
      checkArray (Value.array [.object [(.name "a", .string "x")], .null, .bool true])
        (.ofList [(.name "a", .string)]) := by
  have hevents : (checkArray (Value.array [.object [(.name "a", .string "x")], .null, .bool true])
      (.ofList [(.name "a", .string)])).events = [.elementMismatch 1 3] := by decide
  have hdiagnosed := checkArray_tells_first_failing.2
    (.array [.object [(.name "a", .string "x")], .null, .bool true])
    (.ofList [(.name "a", .string)])
  refine ⟨hevents, ?_⟩
  intro other
  rcases hdiagnosed.fails _ rfl (by decide) with
    ⟨before, element, after, hsplit, -, -, -, htold, -, hothers⟩
  rw [hevents] at htold
  have hlast := congrArg List.getLast? htold
  rw [List.getLast?_concat] at hlast
  simp only [List.getLast?_singleton, Option.some.injEq, Event.elementMismatch.injEq] at hlast
  rcases List.length_eq_one_iff.mp hlast.1.symm with ⟨first, rfl⟩
  cases hsplit
  exact hothers [other] rfl

end Guard
end DuckTyping
