import DuckTyping.Value

/-!
# Parts of values

Values nest: an array has elements, and the properties of an object are bound to values.  What
holds of a value whenever it holds of its elements and of the values of its properties holds of
every value.

Main definitions:

- `Value.PartOf`: a value is the whole of another, or stands in it at some depth.

Main results:

- `Value.nestedInduction`: induction over elements and properties.
- `Value.partOf_array_iff`, `Value.partOf_object_iff`, `Value.partOf_leaf_iff`: the parts of each
  form of value.
-/

namespace DuckTyping
namespace Value

/-! ## Induction -/

/-- A value that has neither elements nor properties. -/
def IsLeaf : Value → Prop
  | array _ | object _ => False
  | _ => True

theorem sizeOf_lt_of_mem_elements {element : Value} {elements : List Value}
    (h : element ∈ elements) : sizeOf element < sizeOf (array elements) := by
  have hmem := List.sizeOf_lt_of_mem h
  rw [array.sizeOf_spec]
  omega

theorem sizeOf_lt_of_mem_properties {entry : PropertyKey × Value}
    {properties : List (PropertyKey × Value)} (h : entry ∈ properties) :
    sizeOf entry.2 < sizeOf (object properties) := by
  have hmem := List.sizeOf_lt_of_mem h
  have hentry : sizeOf entry = 1 + sizeOf entry.1 + sizeOf entry.2 := rfl
  rw [object.sizeOf_spec]
  omega

/-- What holds of all leaves, of an array whenever it holds of the elements, and of an object
whenever it holds of the values of the properties, holds of all values. -/
@[elab_as_elim]
theorem nestedInduction {motive : Value → Prop} (value : Value)
    (leaf : ∀ value, value.IsLeaf → motive value)
    (array : ∀ elements, (∀ element ∈ elements, motive element) → motive (array elements))
    (object : ∀ properties, (∀ entry ∈ properties, motive entry.2) → motive (object properties)) :
    motive value :=
  match value with
  | .array elements =>
    array elements fun element _hmem => nestedInduction element leaf array object
  | .object properties =>
    object properties fun entry _hmem => nestedInduction entry.2 leaf array object
  | .undefined | .null | .bool _ | .number _ | .bigint _ | .string _ | .symbol _ | .function _ =>
    leaf _ trivial
termination_by sizeOf value
decreasing_by
  · exact sizeOf_lt_of_mem_elements _hmem
  · exact sizeOf_lt_of_mem_properties _hmem

/-! ## Parts -/

/-- A value is the whole of another, or part of an element or of the value of a property. -/
inductive PartOf : Value → Value → Prop where
  | whole (value : Value) : PartOf value value
  | element {part element : Value} {elements : List Value} (stored : element ∈ elements)
      (inside : PartOf part element) : PartOf part (array elements)
  | property {part content : Value} {key : PropertyKey} {properties : List (PropertyKey × Value)}
      (stored : (key, content) ∈ properties) (inside : PartOf part content) :
      PartOf part (object properties)

variable {part inner : Value}

theorem partOf_leaf_iff {value : Value} (h : value.IsLeaf) : PartOf part value ↔ part = value := by
  constructor
  · intro hpart
    cases hpart with
    | whole => rfl
    | element _ _ | property _ _ => contradiction
  · rintro rfl
    exact .whole part

theorem partOf_array_iff {elements : List Value} :
    PartOf part (array elements) ↔
      part = array elements ∨ ∃ element ∈ elements, PartOf part element := by
  constructor
  · intro hpart
    cases hpart with
    | whole => exact Or.inl rfl
    | element stored inside => exact Or.inr ⟨_, stored, inside⟩
  · rintro (rfl | ⟨element, stored, inside⟩)
    · exact .whole _
    · exact .element stored inside

theorem partOf_object_iff {properties : List (PropertyKey × Value)} :
    PartOf part (object properties) ↔
      part = object properties ∨ ∃ entry ∈ properties, PartOf part entry.2 := by
  constructor
  · intro hpart
    cases hpart with
    | whole => exact Or.inl rfl
    | property stored inside => exact Or.inr ⟨_, stored, inside⟩
  · rintro (rfl | ⟨entry, stored, inside⟩)
    · exact .whole _
    · exact .property stored inside

/-- A part of a part is a part. -/
theorem PartOf.trans {whole : Value} (hinner : PartOf inner part) (hpart : PartOf part whole) :
    PartOf inner whole := by
  induction hpart with
  | whole => exact hinner
  | element stored _ ih => exact .element stored ih
  | property stored _ ih => exact .property stored ih

end Value
end DuckTyping
