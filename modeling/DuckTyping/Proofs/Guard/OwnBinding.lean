import DuckTyping.Proofs.Guard.Verdict
import DuckTyping.Proofs.Position

/-!
# Own bindings

What a value binds can be said without looking anything up: an object binds its stored entries, an
array its elements under the numerals of their positions and a number under `length`, and nothing
else binds anything.  The check passes exactly for the arrays and objects that bind every listed
key to something of the listed kind.

Main definitions:

- `SequenceBinds`: the own bindings of an array.
- `Document.Binds`, `Value.Binds`: the own bindings of a document and of a value.

Main results:

- `OrderedDocument.propertyTag_of_binds`, `Document.binds_propertyTag` and their companions for
  values: a key is bound to what reflection finds under it, and to nothing if it finds nothing.
- `Guard.check_passes_iff_bindings`: the check is sound and complete with respect to own bindings.
-/

namespace DuckTyping

/-! ## Arrays -/

/-- An array binds each element under the numeral of its position, as long as that position is
below the limit of positions, and it binds a number under `length`. -/
inductive SequenceBinds {α : Type} (tagOf : α → TypeTag) (elements : List α) :
    PropertyKey → TypeTag → Prop where
  | element (position : Nat) (inBounds : position < elements.length)
      (below : position < PropertyKey.indexLimit) :
      SequenceBinds tagOf elements (.ofInt position) (tagOf elements[position])
  | length : SequenceBinds tagOf elements (.name "length") .number

namespace Reflection

variable {α : Type} {tagOf : α → TypeTag} {elements : List α} {key : PropertyKey} {tag : TypeTag}

/-- The name of the length is no numeral. -/
theorem ofInt_ne_lengthName (position : Nat) : PropertyKey.ofInt position ≠ .name lengthName := by
  intro h
  rw [PropertyKey.ofInt_natCast, PropertyKey.name.injEq, ← String.toList_inj,
    Nat.toList_repr] at h
  have hnumeral : PropertyKey.numeral? lengthName.toList = some position :=
    PropertyKey.numeral?_eq_some_iff.mpr h.symm
  have hnone : PropertyKey.numeral? lengthName.toList = none := by decide
  rw [hnone] at hnumeral
  contradiction

/-- Under a key that an array binds, its property is what the key is bound to. -/
theorem sequencePropertyTag_of_binds (h : SequenceBinds tagOf elements key tag) :
    sequencePropertyTag tagOf elements key = tag := by
  cases h with
  | length => exact if_pos rfl
  | element position inBounds below =>
    have hindex : (PropertyKey.ofInt position).arrayIndex? = some position :=
      PropertyKey.arrayIndex?_eq_some_iff.mpr ⟨below, rfl⟩
    rw [sequencePropertyTag, if_neg (ofInt_ne_lengthName position), hindex, Option.bind_some,
      List.getElem?_eq_getElem inBounds]

theorem sequencePropertyTag_eq_undefined (hlength : key ≠ .name lengthName)
    (hindex : key.arrayIndex? = none) :
    sequencePropertyTag tagOf elements key = .undefined := by
  rw [sequencePropertyTag, if_neg hlength, hindex]
  rfl

/-- An array has properties only under the keys that it binds. -/
theorem binds_sequencePropertyTag (h : sequencePropertyTag tagOf elements key ≠ .undefined) :
    SequenceBinds tagOf elements key (sequencePropertyTag tagOf elements key) := by
  by_cases hlength : key = .name lengthName
  · subst hlength
    rw [sequencePropertyTag, if_pos rfl]
    exact .length
  · cases hindex : key.arrayIndex? with
    | none => exact absurd (sequencePropertyTag_eq_undefined hlength hindex) h
    | some position =>
      rcases PropertyKey.arrayIndex?_eq_some_iff.mp hindex with ⟨below, rfl⟩
      rw [sequencePropertyTag, if_neg hlength, hindex, Option.bind_some] at h ⊢
      by_cases inBounds : position < elements.length
      · rw [List.getElem?_eq_getElem inBounds]
        exact .element position inBounds below
      · simp [inBounds] at h

theorem key_of_sequenceBinds (h : SequenceBinds tagOf elements key tag) :
    key = .name "length" ∨
      ∃ position, position < min elements.length PropertyKey.indexLimit ∧
        key = .ofInt position := by
  cases h with
  | length => exact Or.inl rfl
  | element position inBounds below =>
    exact Or.inr ⟨position, Nat.lt_min.mpr ⟨inBounds, below⟩, rfl⟩

end Reflection

/-! ## Documents -/

/-- The own bindings of a document. -/
inductive Document.Binds : Document → PropertyKey → TypeTag → Prop where
  | member {members : List (String × Document)} {name : String} {content : Document}
      (stored : (name, content) ∈ members) :
      Binds (object members) (.name name) content.typeTag
  | ofArray {elements : List Document} {key : PropertyKey} {tag : TypeTag}
      (bound : SequenceBinds typeTag elements key tag) :
      Binds (array elements) key tag

namespace Document

variable {document : Document} {key : PropertyKey} {tag : TypeTag}

theorem typeTag_eq_object_iff :
    document.typeTag = .object ↔
      (∃ elements, document = array elements) ∨ ∃ members, document = object members := by
  cases document <;> simp [typeTag]

/-- A document has properties only under the keys that it binds. -/
theorem binds_propertyTag (h : document.propertyTag key ≠ .undefined) :
    document.Binds key (document.propertyTag key) := by
  cases document with
  | null | bool _ | number _ | string _ => simp [propertyTag] at h
  | array elements => exact .ofArray (Reflection.binds_sequencePropertyTag h)
  | object members =>
    cases key with
    | symbol id => simp [propertyTag, PropertyKey.asName?] at h
    | name name =>
      cases hfind : Entries.find? name members with
      | none => simp [propertyTag, PropertyKey.asName?, hfind] at h
      | some content =>
        simp only [propertyTag, PropertyKey.asName?, Option.bind_some, hfind]
        exact .member (Entries.mem_of_find?_eq_some hfind)

end Document

/-- Under a key that a document binds, its property is what the key is bound to. -/
theorem OrderedDocument.propertyTag_of_binds (document : OrderedDocument) {key : PropertyKey}
    {tag : TypeTag} (h : document.content.Binds key tag) :
    document.content.propertyTag key = tag := by
  rcases document with ⟨document, hwf⟩
  cases h with
  | ofArray bound => exact Reflection.sequencePropertyTag_of_binds bound
  | @member members name content stored =>
    have hfind : Entries.find? name members = some content :=
      hwf.1.find?_eq_some_iff.mpr stored
    simp only [Document.propertyTag, PropertyKey.asName?, Option.bind_some, hfind]

/-! ## Values -/

/-- The own bindings of a value. -/
inductive Value.Binds : Value → PropertyKey → TypeTag → Prop where
  | property {properties : List (PropertyKey × Value)} {key : PropertyKey} {content : Value}
      (stored : (key, content) ∈ properties) :
      Binds (object properties) key content.typeTag
  | ofArray {elements : List Value} {key : PropertyKey} {tag : TypeTag}
      (bound : SequenceBinds typeTag elements key tag) :
      Binds (array elements) key tag

namespace Value

variable {value : Value} {key : PropertyKey} {tag : TypeTag}

theorem typeTag_eq_object_iff :
    value.typeTag = .object ↔
      (∃ elements, value = array elements) ∨ ∃ properties, value = object properties := by
  cases value <;> simp [typeTag]

/-- A value has properties only under the keys that it binds. -/
theorem binds_propertyTag (h : value.propertyTag key ≠ .undefined) :
    value.Binds key (value.propertyTag key) := by
  cases value with
  | array elements => exact .ofArray (Reflection.binds_sequencePropertyTag h)
  | object properties =>
    cases hfind : Entries.find? key properties with
    | none => simp [propertyTag, hfind] at h
    | some content =>
      simp only [propertyTag, hfind]
      exact .property (Entries.mem_of_find?_eq_some hfind)
  | undefined | null | bool _ | number _ | bigint _ | string _ | symbol _ | function _ =>
    simp [propertyTag] at h

end Value

/-- Under a key that a value binds, its property is what the key is bound to. -/
theorem OrderedValue.propertyTag_of_binds (value : OrderedValue) {key : PropertyKey}
    {tag : TypeTag} (h : value.content.Binds key tag) : value.content.propertyTag key = tag := by
  rcases value with ⟨value, hwf⟩
  cases h with
  | ofArray bound => exact Reflection.sequencePropertyTag_of_binds bound
  | @property properties key content stored =>
    have hfind : Entries.find? key properties = some content :=
      hwf.1.find?_eq_some_iff.mpr stored
    simp only [Value.propertyTag, hfind]

/-! ## The check -/

theorem Kind.tag_ne_undefined (kind : Kind) : kind.tag ≠ .undefined := by
  cases kind <;> decide

theorem Kind.tag_ne_of_unaskable {tag : TypeTag}
    (h : tag = .null ∨ tag = .undefined ∨ tag = .boolean) (kind : Kind) : tag ≠ kind.tag := by
  rcases h with rfl | rfl | rfl <;> cases kind <;> decide

namespace Guard

section Bindings

variable {α : Type} [Reflection α] {value : α} {binds : PropertyKey → TypeTag → Prop}
  (sound : ∀ key tag, binds key tag → Reflection.propertyTag value key = tag)
  (complete : ∀ key, Reflection.propertyTag value key ≠ .undefined →
    binds key (Reflection.propertyTag value key))

include sound

/-- A key that is bound to what no kind asks for fails every contract that lists it. -/
theorem check_fails_of_unaskable {expected : Expectations} {key : PropertyKey} {kind : Kind}
    {tag : TypeTag} (hbound : binds key tag)
    (htag : tag = .null ∨ tag = .undefined ∨ tag = .boolean)
    (hlisted : expected.get? key = some kind) :
    (check value expected).result = false := by
  rw [Bool.eq_false_iff]
  intro hpass
  have hkind := (check_result_iff.mp hpass).2 key kind hlisted
  rw [sound key tag hbound] at hkind
  exact Kind.tag_ne_of_unaskable htag kind hkind

include complete

/-- Where reflection answers by what is bound, the check passes exactly for objects that bind every
listed key to something of the listed kind. -/
theorem check_result_iff_binds {expected : Expectations} :
    (check value expected).result = true ↔
      Reflection.typeTag value = .object ∧
        ∀ key kind, expected.get? key = some kind → binds key kind.tag := by
  rw [check_result_iff, isObject_iff]
  constructor
  · rintro ⟨hobject, htags⟩
    refine ⟨hobject, ?_⟩
    intro key kind hlisted
    have htag := htags key kind hlisted
    have hne : Reflection.propertyTag value key ≠ .undefined := by
      rw [htag]
      exact kind.tag_ne_undefined
    have hbound := complete key hne
    rwa [htag] at hbound
  · rintro ⟨hobject, hbound⟩
    refine ⟨hobject, ?_⟩
    intro key kind hlisted
    exact sound key kind.tag (hbound key kind hlisted)

end Bindings

/-- The check of a document or a value passes exactly when it is an array or an object that binds
every listed key to something of the listed kind.  So a binding to null, undefined or a boolean
satisfies no entry, a function passes no check, and an array answers only to `length` and to the
numerals of its positions. -/
theorem check_passes_iff_bindings :
    (∀ (document : Document) (expected : Expectations), document.WellFormed →
      ((check document expected).result = true ↔
        ((∃ elements, document = .array elements) ∨ ∃ members, document = .object members) ∧
          ∀ key kind, expected.get? key = some kind → document.Binds key kind.tag)) ∧
    (∀ (value : Value) (expected : Expectations), value.WellFormed →
      ((check value expected).result = true ↔
        ((∃ elements, value = .array elements) ∨ ∃ properties, value = .object properties) ∧
          ∀ key kind, expected.get? key = some kind → value.Binds key kind.tag)) ∧
    (∀ (document : Document) (expected : Expectations) key kind tag, document.WellFormed →
      document.Binds key tag → tag = .null ∨ tag = .undefined ∨ tag = .boolean →
      expected.get? key = some kind → (check document expected).result = false) ∧
    (∀ (value : Value) (expected : Expectations) key kind tag, value.WellFormed →
      value.Binds key tag → tag = .null ∨ tag = .undefined ∨ tag = .boolean →
      expected.get? key = some kind → (check value expected).result = false) ∧
    (∀ (function : Function) (expected : Expectations),
      isObject (Value.function function) = false ∧
        (check (Value.function function) expected).result = false) ∧
    (∀ (elements : List Document) key, (Document.array elements).propertyTag key ≠ .undefined →
      key = .name "length" ∨ ∃ position, position < min elements.length PropertyKey.indexLimit ∧
        key = .ofInt position) ∧
    (∀ (elements : List Value) key, (Value.array elements).propertyTag key ≠ .undefined →
      key = .name "length" ∨ ∃ position, position < min elements.length PropertyKey.indexLimit ∧
        key = .ofInt position) ∧
    (∀ name ∈ ["01", "+1", "4294967295"],
      (∀ elements, (Document.array elements).propertyTag (.name name) = .undefined) ∧
        ∀ elements, (Value.array elements).propertyTag (.name name) = .undefined) := by
  refine ⟨?_, ?_, ?_, ?_, ?_, ?_, ?_, ?_⟩
  · intro document expected hwf
    rw [← Document.typeTag_eq_object_iff]
    exact check_result_iff_binds (fun _ _ => OrderedDocument.propertyTag_of_binds ⟨document, hwf⟩)
      fun _ => Document.binds_propertyTag
  · intro value expected hwf
    rw [← Value.typeTag_eq_object_iff]
    exact check_result_iff_binds (fun _ _ => OrderedValue.propertyTag_of_binds ⟨value, hwf⟩)
      fun _ => Value.binds_propertyTag
  · intro document expected key kind tag hwf
    exact check_fails_of_unaskable fun _ _ => OrderedDocument.propertyTag_of_binds ⟨document, hwf⟩
  · intro value expected key kind tag hwf
    exact check_fails_of_unaskable fun _ _ => OrderedValue.propertyTag_of_binds ⟨value, hwf⟩
  · intro function expected
    exact ⟨rfl, rfl⟩
  · intro elements key h
    exact Reflection.key_of_sequenceBinds (Reflection.binds_sequencePropertyTag h)
  · intro elements key h
    exact Reflection.key_of_sequenceBinds (Reflection.binds_sequencePropertyTag h)
  · intro name hname
    have hkey : PropertyKey.name name ≠ .name Reflection.lengthName ∧
        (PropertyKey.name name).arrayIndex? = none := by
      revert name
      decide
    exact ⟨fun _ => Reflection.sequencePropertyTag_eq_undefined hkey.1 hkey.2,
      fun _ => Reflection.sequencePropertyTag_eq_undefined hkey.1 hkey.2⟩

/-- An array of a string and null passes for a string at position zero, and a contract that asks
for an object at position one fails on the null there. -/
theorem check_passes_iff_bindings_string_null :
    (Value.array [.string "a", .null]).WellFormed ∧
      ((check (Value.array [.string "a", .null]) (.ofList [(.name "0", .string)])).result = true ↔
        ((∃ elements, Value.array [.string "a", .null] = .array elements) ∨
            ∃ properties, Value.array [.string "a", .null] = .object properties) ∧
          ∀ key kind,
            (OrderedMap.ofList [(PropertyKey.name "0", Kind.string)]).get? key = some kind →
              (Value.array [.string "a", .null]).Binds key kind.tag) ∧
      (Value.array [.string "a", .null]).Binds (.ofInt 1) .null ∧
      (check (Value.array [.string "a", .null]) (.ofList [(.ofInt 1, .object)])).result =
        false := by
  have hwf : (Value.array [.string "a", .null]).WellFormed := by
    simp [Value.WellFormed, Value.ElementsWellFormed]
  have hbound : (Value.array [.string "a", .null]).Binds (.ofInt 1) .null :=
    .ofArray (.element 1 (by decide) (by decide))
  rcases check_passes_iff_bindings with ⟨-, hiff, -, hunaskable, -⟩
  exact ⟨hwf, hiff _ _ hwf, hbound,
    hunaskable _ _ _ .object _ hwf hbound (Or.inl rfl) (by decide)⟩

end Guard
end DuckTyping
