import DuckTyping.Proofs.Guard.Alike
import DuckTyping.Proofs.Guard.OwnBinding

/-!
# Checks of edited values

A check looks at the tags of the listed properties and at nothing else.  An edit of an object that
leaves these tags alone, because it touches another property or binds a listed one to something
with the same tag, cannot be seen by it, and neither can a sequence of such edits.  Of an array a
check sees the elements at the listed positions, and the length only as a number.  Growing an array
adds positions and takes none away; shrinking it takes one away.

Main definitions:

- `Edit`: binding or unbinding a property of an object.
- `Edit.Unseen`, `Edit.AllUnseen`: an edit, and a sequence of edits, that a contract does not see.
- `Value.pushAll?`: appending the values of a list to an array one after the other.

Main results:

- `Edit.exists_run?_of_unseen`: what one unseen edit preserves.
- `Edit.exists_runAll?_of_allUnseen`: what a sequence of unseen edits preserves.
- `SequenceBinds.append`, `sequenceBinds_dropLast_iff`: the own bindings of longer and shorter
  arrays.
- `Guard.check_ignores_unlisted`: verdicts and events after edits.
-/

namespace DuckTyping

/-! ## Edits of objects -/

/-- An edit of the properties of an object. -/
inductive Edit where
  /-- Bind a key. -/
  | put (key : PropertyKey) (item : Value)
  /-- Unbind a key. -/
  | take (key : PropertyKey)

namespace Edit

/-- The value after an edit, if the value has properties that can be edited. -/
def run? (value : Value) : Edit → Option Value
  | put key item => (value.put? key item).map Prod.snd
  | take key => (value.take? key).map Prod.snd

/-- The value after a sequence of edits. -/
def runAll? (value : Value) (edits : List Edit) : Option Value :=
  edits.foldlM run? value

/-- A contract does not see an edit that touches a key that it does not list, or that binds a key
to something with the tag that is found under the key before. -/
def Unseen (expected : Expectations) (value : Value) : Edit → Prop
  | put key item => expected.get? key = none ∨ item.typeTag = value.propertyTag key
  | take key => expected.get? key = none

/-- Each edit of a sequence is unseen when its turn comes. -/
def AllUnseen (expected : Expectations) : Value → List Edit → Prop
  | _, [] => True
  | value, edit :: rest =>
    edit.Unseen expected value ∧
      ∀ next, edit.run? value = some next → AllUnseen expected next rest

end Edit

/-! ### What an edit preserves -/

/-- Taking a key leaves every other key alone. -/
theorem Entries.find?_take_of_ne {κ α : Type} [DecidableEq κ] {key other : κ} (h : other ≠ key)
    (entries : List (κ × α)) : find? other (take key entries).2 = find? other entries := by
  induction entries with
  | nil => rfl
  | cons entry rest ih =>
    rcases entry with ⟨k, a⟩
    by_cases hk : k = key
    · have hne : k ≠ other := fun heq => h (heq.symm.trans hk)
      rw [take, if_pos hk, find?_cons, if_neg hne]
    · rw [take, if_neg hk, find?_cons, find?_cons, ih]

namespace Value

/-- Objects in which a key finds the same have the same tag under it. -/
theorem propertyTag_object_congr {properties others : List (PropertyKey × Value)}
    {key : PropertyKey} (h : Entries.find? key properties = Entries.find? key others) :
    (object properties).propertyTag key = (object others).propertyTag key := by
  rw [propertyTag, propertyTag, h]

theorem propertyTag_object_insert (properties : List (PropertyKey × Value)) (key : PropertyKey)
    (item : Value) :
    (object (Entries.insert key item properties)).propertyTag key = item.typeTag := by
  simp only [propertyTag, Entries.find?_insert, if_pos]

end Value

namespace Edit

variable {expected : Expectations} {properties : List (PropertyKey × Value)}

/-- One unseen edit turns an object into an object with the same tag under each listed key. -/
theorem exists_run?_of_unseen {edit : Edit} (h : edit.Unseen expected (.object properties)) :
    ∃ revised, edit.run? (.object properties) = some (.object revised) ∧
      ∀ key kind, expected.get? key = some kind →
        (Value.object revised).propertyTag key = (Value.object properties).propertyTag key := by
  cases edit with
  | put key item =>
    refine ⟨Entries.insert key item properties, ?_, ?_⟩
    · simp only [run?, Value.put?, Entries.put_snd, Option.map_some]
    · intro other kind hlisted
      by_cases heq : other = key
      · subst heq
        rcases h with hunlisted | htag
        · rw [hunlisted] at hlisted
          contradiction
        · rw [Value.propertyTag_object_insert, htag]
      · apply Value.propertyTag_object_congr
        rw [Entries.find?_insert, if_neg heq]
  | take key =>
    refine ⟨(Entries.take key properties).2, ?_, ?_⟩
    · simp only [run?, Value.take?, Option.map_some]
    · intro other kind hlisted
      have hunlisted : expected.get? key = none := h
      have hne : other ≠ key := by
        rintro rfl
        rw [hunlisted] at hlisted
        contradiction
      exact Value.propertyTag_object_congr (Entries.find?_take_of_ne hne properties)

/-- A sequence of unseen edits turns an object into an object with the same tag under each listed
key. -/
theorem exists_runAll?_of_allUnseen {edits : List Edit}
    (h : AllUnseen expected (.object properties) edits) :
    ∃ revised, runAll? (.object properties) edits = some (.object revised) ∧
      ∀ key kind, expected.get? key = some kind →
        (Value.object revised).propertyTag key = (Value.object properties).propertyTag key := by
  induction edits generalizing properties with
  | nil => exact ⟨properties, rfl, fun _ _ _ => rfl⟩
  | cons edit rest ih =>
    rcases exists_run?_of_unseen h.1 with ⟨next, hnext, hstep⟩
    rcases ih (h.2 _ hnext) with ⟨revised, hrevised, hrest⟩
    refine ⟨revised, ?_, ?_⟩
    · rw [runAll?, List.foldlM_cons, hnext]
      exact hrevised
    · intro key kind hlisted
      exact (hrest key kind hlisted).trans (hstep key kind hlisted)

end Edit

/-! ## Longer and shorter arrays -/

section Sequences

variable {α : Type} {tagOf : α → TypeTag} {elements : List α} {key : PropertyKey} {tag : TypeTag}

/-- A longer array keeps its own bindings. -/
theorem SequenceBinds.append (h : SequenceBinds tagOf elements key tag) (items : List α) :
    SequenceBinds tagOf (elements ++ items) key tag := by
  cases h with
  | length => exact .length
  | element position inBounds below =>
    have hlonger : position < (elements ++ items).length := by
      rw [List.length_append]
      omega
    have helement : (elements ++ items)[position] = elements[position] :=
      List.getElem_append_left inBounds
    rw [← helement]
    exact .element position hlonger below

/-- An array without its last element keeps its own bindings except that of the last position. -/
theorem sequenceBinds_dropLast_iff :
    SequenceBinds tagOf elements.dropLast key tag ↔
      SequenceBinds tagOf elements key tag ∧ key ≠ .ofInt (elements.length - 1 : Nat) := by
  constructor
  · intro h
    cases h with
    | length => exact ⟨.length, (Reflection.ofInt_ne_lengthName _).symm⟩
    | element position inBounds below =>
      have hshorter : position < elements.length - 1 := by
        rwa [List.length_dropLast] at inBounds
      refine ⟨?_, ?_⟩
      · rw [List.getElem_dropLast]
        exact .element position (by omega) below
      · rw [Ne, PropertyKey.ofInt_natCast_inj]
        omega
  · rintro ⟨h, hkey⟩
    cases h with
    | length => exact .length
    | element position inBounds below =>
      rw [Ne, PropertyKey.ofInt_natCast_inj] at hkey
      have hshorter : position < elements.dropLast.length := by
        rw [List.length_dropLast]
        omega
      rw [← List.getElem_dropLast hshorter]
      exact .element position hshorter below

end Sequences

namespace Value

/-- Append the values of a list to an array, one after the other. -/
def pushAll? (value : Value) (items : List Value) : Option Value :=
  items.foldlM push? value

theorem pushAll?_array (elements items : List Value) :
    (array elements).pushAll? items = some (array (elements ++ items)) := by
  induction items generalizing elements with
  | nil => rw [List.append_nil]; rfl
  | cons item rest ih =>
    have hstep : (array elements).pushAll? (item :: rest) =
        (array (elements ++ [item])).pushAll? rest := rfl
    rw [hstep, ih, List.append_assoc, List.singleton_append]

theorem pop?_array {elements : List Value} (h : elements ≠ []) :
    (array elements).pop? = some (some (elements.getLast h), array elements.dropLast) := by
  rw [pop?, List.getLast?_eq_some_getLast h]

end Value

namespace Guard

variable {expected : Expectations} {elements : List Value}

/-- An array passes exactly when it binds every listed key to something of the listed kind. -/
theorem check_array_result_iff :
    (check (Value.array elements) expected).result = true ↔
      ∀ key kind, expected.get? key = some kind →
        SequenceBinds Value.typeTag elements key kind.tag := by
  have hobject : Reflection.typeTag (Value.array elements) = .object := rfl
  have hbinds : (check (Value.array elements) expected).result = true ↔
      Reflection.typeTag (Value.array elements) = .object ∧
        ∀ key kind, expected.get? key = some kind →
          SequenceBinds Value.typeTag elements key kind.tag :=
    check_result_iff_binds (fun _ _ => Reflection.sequencePropertyTag_of_binds)
      fun _ => Reflection.binds_sequencePropertyTag
  rw [hbinds, hobject]
  simp only [true_and]

/-- An array that passes still does after values have been appended. -/
theorem check_append_passes (h : (check (Value.array elements) expected).result = true)
    (items : List Value) : (check (Value.array (elements ++ items)) expected).result = true := by
  rw [check_array_result_iff] at h ⊢
  intro key kind hlisted
  exact (h key kind hlisted).append items

/-- An array that passes still does without its last element exactly when the position of that
element is not listed. -/
theorem check_dropLast_passes_iff (h : (check (Value.array elements) expected).result = true) :
    (check (Value.array elements.dropLast) expected).result = true ↔
      expected.get? (.ofInt (elements.length - 1 : Nat)) = none := by
  rw [check_array_result_iff] at h ⊢
  simp only [sequenceBinds_dropLast_iff]
  constructor
  · intro hshorter
    rw [Option.eq_none_iff_forall_ne_some]
    intro kind hlisted
    exact (hshorter _ kind hlisted).2 rfl
  · intro hunlisted key kind hlisted
    refine ⟨h key kind hlisted, ?_⟩
    rintro rfl
    rw [hunlisted] at hlisted
    contradiction

/-- A check does not depend on what its contract does not list.

- Edits of an object that only touch unlisted keys, or that bind a listed key to something with the
  tag that it had, change neither the verdict nor the events, however many there are.
- An array that passes does so without events after any values have been pushed.
- After its last element has been popped it passes exactly when the numeral of the position of that
  element is not listed. -/
theorem check_ignores_unlisted :
    (∀ (expected : Expectations) (properties : List (PropertyKey × Value)) (edits : List Edit),
      Edit.AllUnseen expected (.object properties) edits →
        ∃ revised, Edit.runAll? (.object properties) edits = some (.object revised) ∧
          check (Value.object revised) expected = check (Value.object properties) expected) ∧
    (∀ (expected : Expectations) (elements : List Value),
      (check (Value.array elements) expected).result = true →
        (∀ items, ∃ longer, (Value.array elements).pushAll? items = some longer ∧
          check longer expected = .silent true) ∧
        (elements ≠ [] → ∃ last shorter,
          (Value.array elements).pop? = some (some last, shorter) ∧
            ((check shorter expected).result = true ↔
              expected.get? (.name (elements.length - 1).repr) = none))) := by
  refine ⟨?_, ?_⟩
  · intro expected properties edits hunseen
    rcases Edit.exists_runAll?_of_allUnseen hunseen with ⟨revised, hrevised, htags⟩
    refine ⟨revised, hrevised, check_eq_of_listed rfl ?_⟩
    intro entry hentry
    exact htags entry.1 entry.2 (OrderedMap.get?_eq_some_iff.mpr hentry)
  · intro expected elements hpasses
    constructor
    · intro items
      exact ⟨_, Value.pushAll?_array elements items,
        check_eq_silent_of_passes (check_append_passes hpasses items)⟩
    · intro hne
      refine ⟨_, _, Value.pop?_array hne, ?_⟩
      rw [check_dropLast_passes_iff hpasses, PropertyKey.ofInt_natCast]

/-- Binding another property, binding the listed one to another string and unbinding the other
property again are not seen.  An array of a string and null passes for a string at position zero
whatever is pushed, and still does when null has been popped. -/
theorem check_ignores_unlisted_string :
    Edit.AllUnseen (.ofList [(.name "a", .string)]) (.object [(.name "a", .string "x")])
        [.put (.name "b") .null, .put (.name "a") (.string "y"), .take (.name "b")] ∧
      (∃ revised, Edit.runAll? (.object [(.name "a", .string "x")])
          [.put (.name "b") .null, .put (.name "a") (.string "y"), .take (.name "b")] =
            some (.object revised) ∧
        check (Value.object revised) (.ofList [(.name "a", .string)]) =
          check (Value.object [(.name "a", .string "x")]) (.ofList [(.name "a", .string)])) ∧
      (check (Value.array [.string "x", .null]) (.ofList [(.name "0", .string)])).result = true ∧
      (∀ items, ∃ longer, (Value.array [.string "x", .null]).pushAll? items = some longer ∧
        check longer (.ofList [(.name "0", .string)]) = .silent true) ∧
      ∃ last shorter, (Value.array [.string "x", .null]).pop? = some (some last, shorter) ∧
        (check shorter (.ofList [(.name "0", .string)])).result = true := by
  have hunseen : Edit.AllUnseen (.ofList [(.name "a", .string)])
      (.object [(.name "a", .string "x")])
      [.put (.name "b") .null, .put (.name "a") (.string "y"), .take (.name "b")] := by
    have hunlisted : (OrderedMap.ofList [(PropertyKey.name "a", Kind.string)]).get?
        (.name "b") = none := by decide
    refine ⟨Or.inl hunlisted, ?_⟩
    rintro _ ⟨⟩
    refine ⟨Or.inr rfl, ?_⟩
    rintro _ ⟨⟩
    exact ⟨hunlisted, fun _ _ => trivial⟩
  have hpasses : (check (Value.array [.string "x", .null])
      (.ofList [(.name "0", .string)])).result = true := by decide
  rcases check_ignores_unlisted with ⟨hobject, harray⟩
  rcases harray _ _ hpasses with ⟨hpush, hpop⟩
  rcases hpop (by simp) with ⟨last, shorter, hshorter, hiff⟩
  exact ⟨hunseen, hobject _ _ _ hunseen, hpasses, hpush, last, shorter, hshorter,
    hiff.mpr (by decide)⟩

end Guard
end DuckTyping
