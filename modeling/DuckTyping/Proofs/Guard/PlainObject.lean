import DuckTyping.Proofs.Expectations.Canonical
import DuckTyping.Proofs.Guard.Alike
import DuckTyping.Proofs.Guard.Members
import DuckTyping.Proofs.Guard.OwnBinding
import DuckTyping.Proofs.Guard.Verdict

/-!
# Arrays and plain objects with the same entries

An array answers to the numerals of its positions and to `length`.  An object can bind the same
elements under just these names, and a number under `length`.  Nothing that asks for properties tells
the two apart, as long as keys can address every position of the array.  Only as a sequence the array
is recognised and the object is not.

Main definitions:

- `Entries.byPosition`: elements under the numerals of their positions, and something under `length`.
- `Document.plainObject`, `Value.plainObject`: the object with these entries.

Main results:

- `Entries.find?_byPosition_eq_some_iff`: what such an object holds under each name.
- `Reflection.sequenceBinds_iff_byPosition`: these entries are the own bindings of the array.
- `Guard.document_alike_plainObject`, `Guard.value_alike_plainObject`: an array and its plain object
  look alike.
- `Guard.array_reflected_as_plainObject`: reflection, verdicts and events of both.
-/

namespace DuckTyping

/-! ## Entries by position -/

namespace Entries

variable {α : Type} {elements : List α} {length content : α} {name : String}

/-- The elements of a sequence under the decimal names of their positions, and something under
`length`. -/
def byPosition (elements : List α) (length : α) : List (String × α) :=
  (elements.zipIdx.map fun entry => (entry.2.repr, entry.1)) ++ [("length", length)]

theorem mem_byPosition_iff :
    (name, content) ∈ byPosition elements length ↔
      (∃ position : Nat, name = position.repr ∧ elements[position]? = some content) ∨
        name = "length" ∧ content = length := by
  simp only [byPosition, List.mem_append, List.mem_map, List.mem_singleton, Prod.mk.injEq,
    Prod.exists, List.mk_mem_zipIdx_iff_getElem?]
  apply or_congr_left
  constructor
  · rintro ⟨_, position, hstored, rfl, rfl⟩
    exact ⟨position, rfl, hstored⟩
  · rintro ⟨position, rfl, hstored⟩
    exact ⟨content, position, hstored, rfl, rfl⟩

/-- Each position has a name of its own, and none of them is `length`. -/
theorem nodup_keys_byPosition : ((byPosition elements length).map Prod.fst).Nodup := by
  have hnames : (byPosition elements length).map Prod.fst =
      (elements.zipIdx.map Prod.snd).map Nat.repr ++ ["length"] := by
    rw [byPosition, List.map_append, List.map_map, List.map_map]
    rfl
  rw [hnames, List.zipIdx_map_snd, List.nodup_append]
  refine ⟨List.pairwise_map.mpr (List.Pairwise.imp ?_ List.nodup_range'),
    List.nodup_singleton _, ?_⟩
  · intro position other hne heq
    apply hne
    rw [← PropertyKey.ofInt_natCast_inj, PropertyKey.ofInt_natCast, PropertyKey.ofInt_natCast, heq]
  · intro name hname other hother heq
    rw [List.mem_map] at hname
    rw [List.mem_singleton] at hother
    rcases hname with ⟨position, -, rfl⟩
    apply Reflection.ofInt_ne_lengthName position
    rw [PropertyKey.ofInt_natCast, heq, hother]
    rfl

/-- An object with these entries holds each element under the name of its position, and nothing else
but its length. -/
theorem find?_byPosition_eq_some_iff :
    find? name (ofList (byPosition elements length)) = some content ↔
      (∃ position : Nat, name = position.repr ∧ elements[position]? = some content) ∨
        name = "length" ∧ content = length := by
  rw [(sorted_ofList _).find?_eq_some_iff, mem_ofList_iff nodup_keys_byPosition,
    mem_byPosition_iff]

end Entries

/-! ## Properties of arrays -/

namespace Reflection

variable {α : Type} {tagOf : α → TypeTag} {elements : List α} {length : α} {tag : TypeTag}

/-- The own bindings of an array are its entries by position, as long as keys can address every
position. -/
theorem sequenceBinds_iff_byPosition (hbound : elements.length ≤ PropertyKey.indexLimit)
    (hlength : tagOf length = .number) {name : String} :
    SequenceBinds tagOf elements (.name name) tag ↔
      ∃ content, Entries.find? name (Entries.ofList (Entries.byPosition elements length)) =
        some content ∧ tagOf content = tag := by
  simp only [Entries.find?_byPosition_eq_some_iff]
  constructor
  · intro h
    generalize hkey : PropertyKey.name name = key at h
    cases h with
    | element position inBounds below =>
      rw [PropertyKey.ofInt_natCast, PropertyKey.name.injEq] at hkey
      exact ⟨_, Or.inl ⟨position, hkey, List.getElem?_eq_getElem inBounds⟩, rfl⟩
    | length =>
      rw [PropertyKey.name.injEq] at hkey
      exact ⟨length, Or.inr ⟨hkey, rfl⟩, hlength⟩
  · rintro ⟨content, ⟨position, rfl, hstored⟩ | ⟨rfl, rfl⟩, rfl⟩
    · rcases List.getElem?_eq_some_iff.mp hstored with ⟨inBounds, rfl⟩
      rw [← PropertyKey.ofInt_natCast]
      exact .element position inBounds (Nat.lt_of_lt_of_le inBounds hbound)
    · rw [hlength]
      exact .length

/-- An array has under each name the property that its entries by position hold there. -/
theorem sequencePropertyTag_eq_byPosition (hbound : elements.length ≤ PropertyKey.indexLimit)
    (hlength : tagOf length = .number) (name : String) :
    sequencePropertyTag tagOf elements (.name name) =
      ((Entries.find? name (Entries.ofList (Entries.byPosition elements length))).map tagOf).getD
        .undefined := by
  cases hfind : Entries.find? name (Entries.ofList (Entries.byPosition elements length)) with
  | some content =>
    apply sequencePropertyTag_of_binds
    exact (sequenceBinds_iff_byPosition hbound hlength).mpr ⟨content, hfind, rfl⟩
  | none =>
    by_contra htag
    have hbinds := binds_sequencePropertyTag htag
    rcases (sequenceBinds_iff_byPosition hbound hlength).mp hbinds with ⟨content, hsome, -⟩
    rw [hfind] at hsome
    contradiction

/-- No symbol addresses a property of an array. -/
theorem sequencePropertyTag_symbol (id : SymbolId) :
    sequencePropertyTag tagOf elements (.symbol id) = .undefined :=
  sequencePropertyTag_eq_undefined (by simp) rfl

end Reflection

/-! ## Plain objects -/

/-- The object that binds the elements of an array under the decimal names of their positions, and a
number under `length`. -/
def Document.plainObject (elements : List Document) (length : Number) : Document :=
  object (Entries.ofList (Entries.byPosition elements (number length)))

/-- The object that binds the elements of an array under the decimal names of their positions, and a
number under `length`. -/
def Value.plainObject (elements : List Value) (length : Double) : Value :=
  ofEntries ((Entries.byPosition elements (number length)).map fun entry => (.name entry.1, entry.2))

/-- The property of a plain object under a name is what its entries by position hold there. -/
theorem Value.propertyTag_plainObject_name (elements : List Value) (length : Double)
    (name : String) :
    (plainObject elements length).propertyTag (.name name) =
      ((Entries.find? name (Entries.ofList (Entries.byPosition elements (number length)))).map
        typeTag).getD .undefined := by
  rw [plainObject, ofEntries, propertyTag, Entries.find?_ofList, ← List.map_reverse,
    Expectations.find?_map_name, ← Entries.find?_ofList]
  cases Entries.find? name (Entries.ofList (Entries.byPosition elements (number length))) <;> rfl

theorem Value.propertyTag_plainObject_symbol (elements : List Value) (length : Double)
    (id : SymbolId) : (plainObject elements length).propertyTag (.symbol id) = .undefined := by
  rw [plainObject, ofEntries, propertyTag, Entries.find?_ofList, ← List.map_reverse,
    Expectations.find?_map_symbol]

/-! ## Guards -/

namespace Guard

/-- An array of documents and its plain object look alike. -/
theorem document_alike_plainObject {elements : List Document}
    (hbound : elements.length ≤ PropertyKey.indexLimit) (length : Number) :
    Alike (Document.array elements) (Document.plainObject elements length) where
  typeTag_eq := rfl
  propertyTag_eq key := by
    change Reflection.sequencePropertyTag Document.typeTag elements key =
      (Document.plainObject elements length).propertyTag key
    cases key with
    | name name =>
      rw [Document.plainObject, Document.propertyTag_object_name]
      exact Reflection.sequencePropertyTag_eq_byPosition hbound rfl name
    | symbol id => exact Reflection.sequencePropertyTag_symbol id

/-- An array of values and its plain object look alike. -/
theorem value_alike_plainObject {elements : List Value}
    (hbound : elements.length ≤ PropertyKey.indexLimit) (length : Double) :
    Alike (Value.array elements) (Value.plainObject elements length) where
  typeTag_eq := rfl
  propertyTag_eq key := by
    change Reflection.sequencePropertyTag Value.typeTag elements key =
      (Value.plainObject elements length).propertyTag key
    cases key with
    | name name =>
      rw [Value.propertyTag_plainObject_name]
      exact Reflection.sequencePropertyTag_eq_byPosition hbound rfl name
    | symbol id =>
      rw [Value.propertyTag_plainObject_symbol, Reflection.sequencePropertyTag_symbol]

/-- An array of documents or of values is reflected like the plain object with the same entries, as
long as it has at most `2 ^ 32 - 1` elements and whatever number the object has for its length.

- Both are objects, and have the same tag under each name and each symbol.
- The check of either against any contract gives the same verdict, with the same events.
- The check of sequences fails on the object, whatever the contract. -/
theorem array_reflected_as_plainObject :
    (∀ (elements : List Document) (length : Number), elements.length ≤ 4294967295 →
      isObject (Document.array elements) = isObject (Document.plainObject elements length) ∧
      (∀ key, (Document.array elements).propertyTag key =
        (Document.plainObject elements length).propertyTag key) ∧
      ∀ expected : Expectations,
        check (Document.array elements) expected =
          check (Document.plainObject elements length) expected ∧
        (checkArray (Document.plainObject elements length) expected).result = false) ∧
    (∀ (elements : List Value) (length : Double), elements.length ≤ 4294967295 →
      isObject (Value.array elements) = isObject (Value.plainObject elements length) ∧
      (∀ key, (Value.array elements).propertyTag key =
        (Value.plainObject elements length).propertyTag key) ∧
      ∀ expected : Expectations,
        check (Value.array elements) expected =
          check (Value.plainObject elements length) expected ∧
        (checkArray (Value.plainObject elements length) expected).result = false) := by
  constructor
  · intro elements length hbound
    have halike := document_alike_plainObject hbound length
    exact ⟨halike.isObject_eq, halike.propertyTag_eq,
      fun expected => ⟨halike.check_eq expected, rfl⟩⟩
  · intro elements length hbound
    have halike := value_alike_plainObject hbound length
    exact ⟨halike.isObject_eq, halike.propertyTag_eq,
      fun expected => ⟨halike.check_eq expected, rfl⟩⟩

/-- The plain object of a string and null fails a contract that asks for an object at position one with
the event of the array.  Another spelling of a position finds nothing in it, and it is no sequence. -/
theorem array_reflected_as_plainObject_string_null :
    check (Value.plainObject [.string "a", .null] ⟨0⟩)
        (.ofList [(.name "0", .string), (.name "1", .object)]) =
        ⟨false, [.propertyMismatch ⟨.name "1", .object, .null⟩]⟩ ∧
      (Value.plainObject [.string "a", .null] ⟨0⟩).propertyTag (.name "01") = .undefined ∧
      (checkArray (Value.plainObject [.string "a", .null] ⟨0⟩) .empty).result = false ∧
      (Document.plainObject [.string "a", .null] (.integer 2 (by decide))).propertyTag
        (.name "length") = .number := by
  rcases array_reflected_as_plainObject with ⟨hdocument, hvalue⟩
  rcases hvalue [.string "a", .null] ⟨0⟩ (by decide) with ⟨-, hproperty, hguards⟩
  rcases hdocument [.string "a", .null] (.integer 2 (by decide)) (by decide) with
    ⟨-, hproperty', -⟩
  refine ⟨?_, ?_, (hguards _).2, ?_⟩
  · rw [← (hguards _).1]
    rfl
  · rw [← hproperty]
    rfl
  · rw [← hproperty']
    rfl

end Guard
end DuckTyping
