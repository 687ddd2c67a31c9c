import DuckTyping.Proofs.Double.Finite
import DuckTyping.Proofs.Value.Equality
import DuckTyping.Value.OfDocument
import Mathlib.Data.Set.List

/-!
# Which values documents have

Two documents have equal values exactly when they have the same structure and their numbers are
rounded to equal doubles.  The values of documents are plain: null, booleans, finite numbers and
strings, and arrays and objects of these in which every key is a name.  Conversely every plain value
is the value of a document.

Main definitions:

- `Document.EqualUpToRounding`: the same structure, with numbers that convert to equal doubles.
- `Value.PlainForm`, `Value.IsPlain`: the forms of values that documents have, at the top and at
  every depth.

Main results:

- `Document.nestedInduction`: induction over elements and members.
- `Value.equals_ofDocument_iff`: when documents have equal values.
- `Value.isPlain_ofDocument`, `Value.exists_ofDocument_of_isPlain`: the values of documents are the
  plain ones.
- `Value.wellFormed_of_ofDocument`: a document is well-formed if its value is.
- `Value.ofDocument_injective_onto_plain`: conversion is injective up to rounding, and onto the plain
  values.
-/

namespace DuckTyping

/-! ## Documents -/

namespace Document

/-- A document that has neither elements nor members. -/
def IsLeaf : Document → Prop
  | array _ | object _ => False
  | _ => True

theorem sizeOf_lt_of_mem_elements {element : Document} {elements : List Document}
    (h : element ∈ elements) : sizeOf element < sizeOf (array elements) := by
  have hmem := List.sizeOf_lt_of_mem h
  rw [array.sizeOf_spec]
  omega

theorem sizeOf_lt_of_mem_members {entry : String × Document} {members : List (String × Document)}
    (h : entry ∈ members) : sizeOf entry.2 < sizeOf (object members) := by
  have hmem := List.sizeOf_lt_of_mem h
  have hentry : sizeOf entry = 1 + sizeOf entry.1 + sizeOf entry.2 := rfl
  rw [object.sizeOf_spec]
  omega

/-- What holds of all leaves, of an array whenever it holds of the elements, and of an object
whenever it holds of what the members hold, holds of all documents. -/
@[elab_as_elim]
theorem nestedInduction {motive : Document → Prop} (document : Document)
    (leaf : ∀ document, document.IsLeaf → motive document)
    (array : ∀ elements, (∀ element ∈ elements, motive element) → motive (array elements))
    (object : ∀ members, (∀ entry ∈ members, motive entry.2) → motive (object members)) :
    motive document :=
  match document with
  | .array elements =>
    array elements fun element _hmem => nestedInduction element leaf array object
  | .object members =>
    object members fun entry _hmem => nestedInduction entry.2 leaf array object
  | .null | .bool _ | .number _ | .string _ => leaf _ trivial
termination_by sizeOf document
decreasing_by
  · exact sizeOf_lt_of_mem_elements _hmem
  · exact sizeOf_lt_of_mem_members _hmem

/-- Two documents have the same structure, that is the same forms, as many elements, the same names
and the same strings and booleans, and numbers in the same places convert to equal doubles. -/
inductive EqualUpToRounding : Document → Document → Prop where
  | null : EqualUpToRounding null null
  | bool (value : Bool) : EqualUpToRounding (bool value) (bool value)
  | number {m n : Number} (rounded : m.toDouble.equals n.toDouble = true) :
      EqualUpToRounding (number m) (number n)
  | string (text : String) : EqualUpToRounding (string text) (string text)
  | array {as bs : List Document} (length : as.length = bs.length)
      (elements : ∀ (i : Nat) (ha : i < as.length) (hb : i < bs.length),
        EqualUpToRounding as[i] bs[i]) :
      EqualUpToRounding (array as) (array bs)
  | object {as bs : List (String × Document)}
      (names : ∀ name, name ∈ as.map Prod.fst ↔ name ∈ bs.map Prod.fst)
      (members : ∀ name a b, Entries.find? name as = some a → Entries.find? name bs = some b →
        EqualUpToRounding a b) :
      EqualUpToRounding (object as) (object bs)

theorem wellFormed_of_find? {members : List (String × Document)}
    (h : (object members).WellFormed) {name : String} {document : Document}
    (hfind : Entries.find? name members = some document) : document.WellFormed :=
  (wellFormed_object_iff.mp h).2 (name, document) (Entries.mem_of_find?_eq_some hfind)

end Document

namespace Value

/-! ## Equal values -/

theorem equals_ofDocument_array_iff {as bs : List Document} :
    (ofDocument (.array as)).equals (ofDocument (.array bs)) = true ↔
      as.length = bs.length ∧ ∀ (i : Nat) (ha : i < as.length) (hb : i < bs.length),
        (ofDocument as[i]).equals (ofDocument bs[i]) = true := by
  rw [ofDocument, ofDocument, equals, elementsEqual_iff, ofElements_eq_map, ofElements_eq_map,
    List.forall₂_map_left_iff, List.forall₂_map_right_iff, List.forall₂_iff_get]
  rfl

theorem equals_ofDocument_object_iff {as bs : List (String × Document)} (has : Entries.Sorted as)
    (hbs : Entries.Sorted bs) :
    (ofDocument (.object as)).equals (ofDocument (.object bs)) = true ↔
      (∀ name, name ∈ as.map Prod.fst ↔ name ∈ bs.map Prod.fst) ∧
        ∀ name a b, Entries.find? name as = some a → Entries.find? name bs = some b →
          (ofDocument a).equals (ofDocument b) = true := by
  rw [ofDocument, ofDocument, equals, propertiesEqual_iff, ofMembers_eq_map, ofMembers_eq_map,
    List.forall₂_map_left_iff, List.forall₂_map_right_iff, ← has.forall₂_related_iff_keys hbs]
  simp only [Entries.Related, PropertyKey.name.injEq]
  rfl

theorem equalUpToRounding_of_equals {d e : Document} (hd : d.WellFormed) (he : e.WellFormed)
    (h : (ofDocument d).equals (ofDocument e) = true) : d.EqualUpToRounding e := by
  induction d using Document.nestedInduction generalizing e with
  | leaf d hleaf =>
    cases d <;> cases e <;> simp only [ofDocument, equals, beq_iff_eq, Bool.false_eq_true] at h
    case null.null => exact .null
    case bool.bool a b => exact h ▸ .bool a
    case number.number m n => exact .number h
    case string.string s t => exact h ▸ .string s
    all_goals contradiction
  | array as ih =>
    cases e with
    | array bs =>
      rw [Document.wellFormed_array_iff] at hd he
      rcases equals_ofDocument_array_iff.mp h with ⟨hlength, helements⟩
      refine .array hlength ?_
      intro i ha hb
      have hmem := List.getElem_mem ha
      exact ih _ hmem (hd _ hmem) (he _ (List.getElem_mem hb)) (helements i ha hb)
    | null | bool _ | number _ | string _ | object _ => simp [ofDocument, equals] at h
  | object as ih =>
    cases e with
    | object bs =>
      rcases (equals_ofDocument_object_iff hd.1 he.1).mp h with ⟨hnames, hmembers⟩
      refine .object hnames ?_
      intro name a b ha hb
      exact ih (name, a) (Entries.mem_of_find?_eq_some ha) (Document.wellFormed_of_find? hd ha)
        (Document.wellFormed_of_find? he hb) (hmembers name a b ha hb)
    | null | bool _ | number _ | string _ | array _ => simp [ofDocument, equals] at h

theorem equals_of_equalUpToRounding {d e : Document} (hd : d.WellFormed) (he : e.WellFormed)
    (h : d.EqualUpToRounding e) : (ofDocument d).equals (ofDocument e) = true := by
  induction h with
  | null => rfl
  | bool value => simp [ofDocument, equals]
  | number rounded => exact rounded
  | string text => simp [ofDocument, equals]
  | array length _ ih =>
    rw [Document.wellFormed_array_iff] at hd he
    refine equals_ofDocument_array_iff.mpr ⟨length, ?_⟩
    intro i ha hb
    exact ih i ha hb (hd _ (List.getElem_mem ha)) (he _ (List.getElem_mem hb))
  | object names _ ih =>
    refine (equals_ofDocument_object_iff hd.1 he.1).mpr ⟨names, ?_⟩
    intro name a b ha hb
    exact ih name a b ha hb (Document.wellFormed_of_find? hd ha)
      (Document.wellFormed_of_find? he hb)

/-- Documents have equal values exactly when they have the same structure and their numbers convert
to equal doubles. -/
theorem equals_ofDocument_iff (d e : OrderedDocument) :
    (ofDocument d.content).equals (ofDocument e.content) = true ↔
      d.content.EqualUpToRounding e.content :=
  ⟨equalUpToRounding_of_equals d.wellFormed e.wellFormed,
    equals_of_equalUpToRounding d.wellFormed e.wellFormed⟩

/-! ## Plain values -/

/-- The forms of values that documents have: null, booleans, finite numbers, strings, arrays, and
objects in which every key is a name. -/
inductive PlainForm : Value → Prop where
  | null : PlainForm null
  | bool (value : Bool) : PlainForm (bool value)
  | number {x : Double} (finite : x.isFinite = true) : PlainForm (number x)
  | string (text : String) : PlainForm (string text)
  | array (elements : List Value) : PlainForm (array elements)
  | object {properties : List (PropertyKey × Value)}
      (names : ∀ entry ∈ properties, ∃ name, entry.1 = .name name) : PlainForm (object properties)

/-- A value has only such forms, at every depth. -/
def IsPlain (value : Value) : Prop :=
  ∀ part, PartOf part value → part.PlainForm

theorem isPlain_leaf_iff {value : Value} (h : value.IsLeaf) : value.IsPlain ↔ value.PlainForm := by
  simp only [IsPlain, partOf_leaf_iff h, forall_eq]

theorem isPlain_array_iff {elements : List Value} :
    (array elements).IsPlain ↔ ∀ element ∈ elements, element.IsPlain := by
  simp only [IsPlain, partOf_array_iff]
  constructor
  · intro h element hmem part hpart
    exact h part (Or.inr ⟨element, hmem, hpart⟩)
  · rintro h part (rfl | ⟨element, hmem, hpart⟩)
    · exact .array elements
    · exact h element hmem part hpart

theorem isPlain_object_iff {properties : List (PropertyKey × Value)} :
    (object properties).IsPlain ↔
      ∀ entry ∈ properties, (∃ name, entry.1 = .name name) ∧ entry.2.IsPlain := by
  simp only [IsPlain, partOf_object_iff]
  constructor
  · intro h entry hmem
    constructor
    · cases h _ (Or.inl rfl) with
      | object names => exact names entry hmem
    · intro part hpart
      exact h part (Or.inr ⟨entry, hmem, hpart⟩)
  · rintro h part (rfl | ⟨entry, hmem, hpart⟩)
    · exact .object fun entry hmem => (h entry hmem).1
    · exact (h entry hmem).2 part hpart

theorem IsPlain.nanFree {value : Value} (h : value.IsPlain) : value.NaNFree := by
  intro x hpart
  cases h _ hpart with
  | number finite => exact Double.isNaN_eq_false_of_isFinite finite

/-! ## The values of documents -/

theorem isLeaf_ofDocument {document : Document} (h : document.IsLeaf) :
    (ofDocument document).IsLeaf := by
  cases document with
  | null | bool _ | number _ | string _ => trivial
  | array _ | object _ => contradiction

/-- The value of a document is plain. -/
theorem isPlain_ofDocument (document : Document) : (ofDocument document).IsPlain := by
  induction document using Document.nestedInduction with
  | leaf document hleaf =>
    rw [isPlain_leaf_iff (isLeaf_ofDocument hleaf)]
    cases document with
    | null => exact .null
    | bool value => exact .bool value
    | number value => exact .number value.isFinite_toDouble
    | string text => exact .string text
    | array _ | object _ => contradiction
  | array elements ih =>
    rw [ofDocument, ofElements_eq_map, isPlain_array_iff, List.forall_mem_map]
    exact ih
  | object members ih =>
    rw [ofDocument, ofMembers_eq_map, isPlain_object_iff, List.forall_mem_map]
    intro entry hmem
    exact ⟨⟨entry.1, rfl⟩, ih entry hmem⟩

/-- Every plain value is the value of a document. -/
theorem exists_ofDocument_of_isPlain {value : Value} (h : value.IsPlain) :
    ∃ document, ofDocument document = value := by
  induction value using nestedInduction with
  | leaf value hleaf =>
    cases (isPlain_leaf_iff hleaf).mp h with
    | null => exact ⟨.null, rfl⟩
    | bool value => exact ⟨.bool value, rfl⟩
    | @number x finite => exact ⟨.number (.double x finite), rfl⟩
    | string text => exact ⟨.string text, rfl⟩
    | array _ | object _ => contradiction
  | array elements ih =>
    rw [isPlain_array_iff] at h
    have hrange : elements ∈ Set.range (List.map ofDocument) := by
      rw [Set.range_list_map]
      exact fun element hmem => ih element hmem (h element hmem)
    rcases hrange with ⟨documents, rfl⟩
    exact ⟨.array documents, by rw [ofDocument, ofElements_eq_map]⟩
  | object properties ih =>
    rw [isPlain_object_iff] at h
    have hrange : properties ∈ Set.range (List.map fun entry : String × Document =>
        ((.name entry.1, ofDocument entry.2) : PropertyKey × Value)) := by
      rw [Set.range_list_map]
      intro entry hmem
      rcases h entry hmem with ⟨⟨name, hname⟩, hplain⟩
      rcases ih entry hmem hplain with ⟨document, hdocument⟩
      exact ⟨(name, document), Prod.ext hname.symm hdocument⟩
    rcases hrange with ⟨members, rfl⟩
    exact ⟨.object members, by rw [ofDocument, ofMembers_eq_map]⟩

/-- A document whose value lists its properties by increasing key lists its members by increasing
name. -/
theorem wellFormed_of_ofDocument {document : Document} (h : (ofDocument document).WellFormed) :
    document.WellFormed := by
  induction document using Document.nestedInduction with
  | leaf document hleaf =>
    cases document with
    | null | bool _ | number _ | string _ => simp [Document.WellFormed]
    | array _ | object _ => contradiction
  | array elements ih =>
    rw [ofDocument, ofElements_eq_map, wellFormed_array_iff, List.forall_mem_map] at h
    rw [Document.wellFormed_array_iff]
    intro element hmem
    exact ih element hmem (h element hmem)
  | object members ih =>
    rw [ofDocument, ofMembers_eq_map, wellFormed_object_iff, List.forall_mem_map,
      Entries.Sorted, List.pairwise_map] at h
    rw [Document.wellFormed_object_iff]
    refine ⟨h.1, ?_⟩
    intro entry hmem
    exact ih entry hmem (h.2 entry hmem)

/-! ## Injectivity and image -/

/-- Conversion of documents to values is injective up to the rounding of numbers, and its image is
exactly the plain values.

- Documents have equal values exactly when they have the same structure and numbers in the same
  places convert to equal doubles.
- The value of a document holds at every depth only null, booleans, finite numbers, strings, arrays
  and objects whose keys are names.  So no number in it is NaN, and it is equal to itself.
- A plain value is the value of some document, with the very words of its numbers, and nothing else
  is. -/
theorem ofDocument_injective_onto_plain :
    (∀ d e : Document, d.WellFormed → e.WellFormed →
      ((ofDocument d).equals (ofDocument e) = true ↔ d.EqualUpToRounding e)) ∧
    (∀ d : Document, (∀ part, PartOf part (ofDocument d) → part.PlainForm) ∧
      (∀ x, PartOf (number x) (ofDocument d) → x.isNaN = false) ∧
      (ofDocument d).equals (ofDocument d) = true) ∧
    (∀ v : Value, (v.WellFormed ∧ ∀ part, PartOf part v → part.PlainForm) ↔
      ∃ d : Document, d.WellFormed ∧ ofDocument d = v) := by
  refine ⟨fun d e hd he => equals_ofDocument_iff ⟨d, hd⟩ ⟨e, he⟩, ?_, ?_⟩
  · intro d
    have hplain := isPlain_ofDocument d
    exact ⟨hplain, hplain.nanFree, equals_self_iff.mpr hplain.nanFree⟩
  · intro v
    constructor
    · rintro ⟨hwf, hplain⟩
      rcases exists_ofDocument_of_isPlain hplain with ⟨d, rfl⟩
      exact ⟨d, wellFormed_of_ofDocument hwf, rfl⟩
    · rintro ⟨d, hwf, rfl⟩
      exact ⟨ofDocument_wellFormed d hwf, isPlain_ofDocument d⟩

/-- An integer beyond `2 ^ 53` and the double that it is rounded to are different numbers, but objects
that bind a name to them have equal values.  An array of negative zero and null is the value of some
document. -/
theorem ofDocument_injective_onto_plain_rounded :
    (ofDocument (.object [("a", .number (.integer 9007199254740993 (by decide)))])).equals
        (ofDocument (.object [("a", .number (.double ⟨0x4340000000000000⟩ (by decide)))])) = true ∧
      ∃ d : Document, d.WellFormed ∧ ofDocument d = array [number ⟨0x8000000000000000⟩, null] := by
  rcases ofDocument_injective_onto_plain with ⟨hequal, -, honto⟩
  constructor
  · refine (hequal _ _ ?_ ?_).mpr ?_
    · simp [Document.WellFormed, Document.MembersWellFormed, Entries.Sorted]
    · simp [Document.WellFormed, Document.MembersWellFormed, Entries.Sorted]
    · refine .object (fun _ => Iff.rfl) ?_
      intro name a b ha hb
      have hname : name = "a" := by
        by_contra hne
        simp [Entries.find?_cons, Ne.symm hne] at ha
      subst hname
      cases ha
      cases hb
      exact .number (by decide +kernel)
  · refine (honto _).mp ⟨?_, ?_⟩
    · simp [WellFormed, ElementsWellFormed]
    · refine isPlain_array_iff.mpr ?_
      intro element hmem
      rcases List.mem_pair.mp hmem with rfl | rfl
      · rw [isPlain_leaf_iff (show (number _).IsLeaf from trivial)]
        exact .number (by decide)
      · rw [isPlain_leaf_iff (show null.IsLeaf from trivial)]
        exact .null

end Value
end DuckTyping
