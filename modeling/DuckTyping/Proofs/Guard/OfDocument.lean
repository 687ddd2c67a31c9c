import DuckTyping.Proofs.Guard.Alike

/-!
# Documents and their values look alike

A document can be checked as it is or as the value that it converts to.  The two reflections are
written apart: members of a document are found by name, properties of a value by key.  They agree
on every part of every document, and so does each guard.

Main definitions:

- `Step`: one step into nested data, by the name of a member or the position of an element.
- `Document.follow?`, `Value.follow?`: the part that a path of steps leads to.

Main results:

- `Value.follow?_ofDocument`: a path leads in the value of a document to the value of the part that
  it leads to in the document.
- `Guard.alike_ofDocument`, `Guard.elementsAlike_ofDocument`: a document and its value look alike.
- `Guard.document_parts_reflected_alike`: reflection, verdicts and events agree on every part.
-/

namespace DuckTyping

/-! ## Paths -/

/-- One step into nested data. -/
inductive Step where
  | member (name : String)
  | element (position : Nat)
deriving DecidableEq, Repr

/-- What one step from a document leads to. -/
def Document.step? : Document → Step → Option Document
  | object members, .member name => Entries.find? name members
  | array elements, .element position => elements[position]?
  | _, _ => none

/-- The part of a document that a path leads to. -/
def Document.follow? (document : Document) (path : List Step) : Option Document :=
  path.foldlM Document.step? document

/-- What one step from a value leads to. -/
def Value.step? : Value → Step → Option Value
  | object properties, .member name => Entries.find? (.name name) properties
  | array elements, .element position => elements[position]?
  | _, _ => none

/-- The part of a value that a path leads to. -/
def Value.follow? (value : Value) (path : List Step) : Option Value :=
  path.foldlM Value.step? value

namespace Value

theorem step?_ofDocument (document : Document) (step : Step) :
    (ofDocument document).step? step = (document.step? step).map ofDocument := by
  cases document with
  | null | bool _ | number _ | string _ => rfl
  | array elements =>
    cases step with
    | member name => rfl
    | element position =>
      rw [ofDocument, step?, Document.step?, ofElements_eq_map, List.getElem?_map]
  | object members =>
    cases step with
    | member name => exact find?_name_ofMembers name members
    | element position => rfl

/-- A path leads in the value of a document to the value of the part that it leads to in the
document. -/
theorem follow?_ofDocument (document : Document) (path : List Step) :
    (ofDocument document).follow? path = (document.follow? path).map ofDocument := by
  induction path generalizing document with
  | nil => rfl
  | cons step path ih =>
    unfold follow? Document.follow? at ih ⊢
    rw [List.foldlM_cons, List.foldlM_cons, step?_ofDocument]
    cases document.step? step with
    | none => rfl
    | some next => exact ih next

/-! ## Reflection -/

@[simp]
theorem typeTag_ofDocument (document : Document) :
    (ofDocument document).typeTag = document.typeTag := by
  cases document <;> rfl

end Value

/-- Elements that keep their tags leave the properties of an array as they are. -/
theorem Reflection.sequencePropertyTag_map {α β : Type} {tagOf : α → TypeTag} {tagOf' : β → TypeTag}
    {convert : α → β} (h : ∀ element, tagOf' (convert element) = tagOf element)
    (elements : List α) (key : PropertyKey) :
    sequencePropertyTag tagOf' (elements.map convert) key =
      sequencePropertyTag tagOf elements key := by
  unfold sequencePropertyTag
  cases key.arrayIndex? with
  | none => rfl
  | some index =>
    simp only [Option.bind_some, List.getElem?_map]
    cases elements[index]? with
    | none => rfl
    | some element => simp only [Option.map_some, h]

namespace Value

/-- A document and its value have the same tag under every key. -/
@[simp]
theorem propertyTag_ofDocument (document : Document) (key : PropertyKey) :
    (ofDocument document).propertyTag key = document.propertyTag key := by
  cases document with
  | null | bool _ | number _ | string _ => rfl
  | array elements =>
    rw [ofDocument, propertyTag, Document.propertyTag, ofElements_eq_map]
    exact Reflection.sequencePropertyTag_map typeTag_ofDocument elements key
  | object members =>
    rw [ofDocument, propertyTag, Document.propertyTag]
    cases key with
    | symbol id => simp [find?_symbol_ofMembers, PropertyKey.asName?]
    | name name =>
      rw [find?_name_ofMembers, PropertyKey.asName?, Option.bind_some]
      cases Entries.find? name members with
      | none => rfl
      | some member => exact typeTag_ofDocument member

theorem elements?_ofDocument (document : Document) :
    (ofDocument document).elements? = document.elements?.map (List.map ofDocument) := by
  cases document with
  | array elements =>
    simp only [ofDocument, elements?, Document.elements?, ofElements_eq_map, Option.map_some]
  | null | bool _ | number _ | string _ | object _ => rfl

end Value

/-! ## Guards -/

namespace Guard

/-- A document and its value look alike. -/
theorem alike_ofDocument (document : Document) : Alike document (Value.ofDocument document) where
  typeTag_eq := (Value.typeTag_ofDocument document).symm
  propertyTag_eq key := (Value.propertyTag_ofDocument document key).symm

/-- A document and its value have elements that look alike, or neither has elements. -/
theorem elementsAlike_ofDocument (document : Document) :
    ElementsAlike document (Value.ofDocument document) := by
  have helements : Reflection.elements (Value.ofDocument document) =
      (Reflection.elements document).map (List.map Value.ofDocument) :=
    Value.elements?_ofDocument document
  rw [ElementsAlike, helements]
  cases Reflection.elements document with
  | none => exact .none
  | some elements =>
    refine .some ?_
    rw [List.forall₂_map_right_iff, List.forall₂_same]
    exact fun element _ => alike_ofDocument element

theorem elementTags_ofDocument (document : Document) :
    (Reflection.elements (Value.ofDocument document)).map (List.map Reflection.typeTag) =
      (Reflection.elements document).map (List.map Reflection.typeTag) := by
  change (Value.ofDocument document).elements?.map (List.map Value.typeTag) =
    document.elements?.map (List.map Document.typeTag)
  rw [Value.elements?_ofDocument, Option.map_map]
  congr 1
  funext elements
  simp only [Function.comp_apply, List.map_map, List.map_inj_left]
  exact fun element _ => Value.typeTag_ofDocument element

/-- Whatever part of a document a path leads to, the same path leads in the value of the document
to the value of that part, and the two look alike: tags, properties and element tags agree, each
guard gives the same verdict, and both checks are told by the same events. -/
theorem document_parts_reflected_alike {document part : Document} {path : List Step}
    (h : document.follow? path = some part) :
    ∃ value : Value, value = Value.ofDocument part ∧
      (Value.ofDocument document).follow? path = some value ∧
      Reflection.typeTag part = Reflection.typeTag value ∧
      (∀ key, Reflection.propertyTag part key = Reflection.propertyTag value key) ∧
      (Reflection.elements part).map (List.map Reflection.typeTag) =
        (Reflection.elements value).map (List.map Reflection.typeTag) ∧
      isObject part = isObject value ∧
      ∀ expected : Expectations,
        check part expected = check value expected ∧
        checkArray part expected = checkArray value expected := by
  refine ⟨Value.ofDocument part, rfl, ?_, ?_⟩
  · rw [Value.follow?_ofDocument, h, Option.map_some]
  · have halike := alike_ofDocument part
    have helements := elementsAlike_ofDocument part
    exact ⟨halike.typeTag_eq, halike.propertyTag_eq, (elementTags_ofDocument part).symm,
      halike.isObject_eq, fun expected =>
        ⟨halike.check_eq expected, helements.checkArray_eq expected⟩⟩

/-- An object that stands in an array, two steps inside a document, is reflected and judged like the
value that the same steps lead to. -/
theorem document_parts_reflected_alike_nested :
    (Document.object [("a", .array [.null, .object [("b", .bool true)]])]).follow?
        [.member "a", .element 1] = some (.object [("b", .bool true)]) ∧
      ∃ value : Value,
        (Value.ofDocument (.object [("a", .array [.null, .object [("b", .bool true)]])])).follow?
          [.member "a", .element 1] = some value ∧
        (∀ key, Reflection.propertyTag (Document.object [("b", .bool true)]) key =
          Reflection.propertyTag value key) ∧
        ∀ expected : Expectations,
          check (Document.object [("b", .bool true)]) expected = check value expected ∧
          checkArray (Document.object [("b", .bool true)]) expected =
            checkArray value expected := by
  have hpart : (Document.object [("a", .array [.null, .object [("b", .bool true)]])]).follow?
      [.member "a", .element 1] = some (.object [("b", .bool true)]) := rfl
  rcases document_parts_reflected_alike hpart with ⟨value, -, hvalue, -, hproperties, -, -, hguards⟩
  exact ⟨hpart, value, hvalue, hproperties, hguards⟩

end Guard
end DuckTyping
