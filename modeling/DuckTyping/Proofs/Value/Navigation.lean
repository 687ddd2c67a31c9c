import DuckTyping.Proofs.Expectations.History
import DuckTyping.Proofs.IntegerKeys
import DuckTyping.Proofs.Value.Lookup
import DuckTyping.Proofs.Value.OfDocument

/-!
# Navigating documents and their values

A value is navigated by looking up one key after the other.  In a document a name leads from an
object to the member of that name, and from an array to the element at the position that the name is
the numeral of; nothing else leads anywhere.  Converting a document and navigating its value comes to
the same as navigating the document and converting the part that is found.

Main definitions:

- `Document.StepsTo`, `Document.LeadsTo`: where a key, and where a path of keys, leads to.
- `OrderedDocument.part`: what a key leads to in a well-formed document.
- `Value.navigate?`: what is found in a value along a path of keys.

Main results:

- `Document.StepsTo.unique`, `Document.LeadsTo.unique`: a path leads to one part at most.
- `Value.get?_ofDocument_eq_some_iff`: conversion commutes with one step.
- `Value.navigate?_ofDocument_eq_some_iff`: conversion commutes with a path of steps.
- `Value.ofDocument_commutes_with_navigation`: the same for keys as they are given.
-/

namespace DuckTyping

/-! ## Paths in documents -/

namespace Document

/-- What a key leads to in a document: a name to the member of that name in an object, and the
decimal numeral of a position below `2 ^ 32 - 1` to the element at that position in an array. -/
inductive StepsTo : Document → PropertyKey → Document → Prop where
  | member {members : List (String × Document)} {name : String} {content : Document}
      (stored : (name, content) ∈ members) : StepsTo (object members) (.name name) content
  | element {elements : List Document} {text : String} {position : Nat} {content : Document}
      (numeral : PropertyKey.IsNumeral text position) (below : position < 4294967295)
      (stored : elements[position]? = some content) :
      StepsTo (array elements) (.name text) content

/-- What a path of keys leads to in a document, one step after the other. -/
inductive LeadsTo : Document → List PropertyKey → Document → Prop where
  | whole (document : Document) : LeadsTo document [] document
  | step {document next part : Document} {key : PropertyKey} {path : List PropertyKey}
      (first : StepsTo document key next) (rest : LeadsTo next path part) :
      LeadsTo document (key :: path) part

variable {part other : Document} {key : PropertyKey} {path : List PropertyKey}

/-- A step leads from a well-formed document to a well-formed one. -/
theorem StepsTo.wellFormed {document : Document} (h : document.StepsTo key part)
    (hwf : document.WellFormed) : part.WellFormed := by
  cases h with
  | member stored => exact (wellFormed_object_iff.mp hwf).2 _ stored
  | element numeral below stored =>
    exact wellFormed_array_iff.mp hwf _ (List.mem_of_getElem? stored)

end Document

/-- The part of a document that a key leads to. -/
def OrderedDocument.part (document : OrderedDocument) {key : PropertyKey} {part : Document}
    (h : document.content.StepsTo key part) : OrderedDocument where
  content := part
  wellFormed := h.wellFormed document.wellFormed

namespace Document

variable {part other : Document} {key : PropertyKey} {path : List PropertyKey}

/-- A key leads to one part at most. -/
theorem StepsTo.unique (document : OrderedDocument) (h : document.content.StepsTo key part)
    (hother : document.content.StepsTo key other) : part = other := by
  rcases document with ⟨document, hwf⟩
  cases h with
  | member stored =>
    cases hother with
    | member stored' =>
      rw [← hwf.1.find?_eq_some_iff] at stored stored'
      rw [stored] at stored'
      exact Option.some.inj stored'
  | element numeral below stored =>
    cases hother with
    | element numeral' below' stored' =>
      have hposition := numeral.numeral?
      rw [numeral'.numeral?] at hposition
      cases hposition
      rw [stored] at stored'
      exact Option.some.inj stored'

/-- A path leads to one part at most. -/
theorem LeadsTo.unique (document : OrderedDocument) (h : document.content.LeadsTo path part)
    (hother : document.content.LeadsTo path other) : part = other := by
  induction path generalizing document with
  | nil =>
    cases h
    cases hother
    rfl
  | cons key path ih =>
    cases h with
    | step first rest =>
      cases hother with
      | step first' rest' =>
        cases StepsTo.unique document first first'
        exact ih (document.part first) rest rest'

end Document

/-! ## Paths in values -/

namespace Value

/-- What is found in a value by looking up the keys of a path one after the other. -/
def navigate? (value : Value) (path : List PropertyKey) : Option Value :=
  path.foldlM get? value

theorem navigate?_cons_eq_some_iff {value found : Value} {key : PropertyKey}
    {path : List PropertyKey} :
    value.navigate? (key :: path) = some found ↔
      ∃ next, value.get? key = some next ∧ next.navigate? path = some found := by
  simp only [navigate?, List.foldlM_cons, Option.bind_eq_bind, Option.bind_eq_some_iff]

variable {key : PropertyKey} {found : Value}

/-! ### One step -/

theorem get?_ofDocument_array_eq_some_iff {elements : List Document} :
    (ofDocument (.array elements)).get? key = some found ↔
      ∃ part, (Document.array elements).StepsTo key part ∧ found = ofDocument part := by
  rw [ofDocument, get?_array_eq_some_iff, ofElements_eq_map]
  constructor
  · rintro ⟨position, below, rfl, hfound⟩
    rw [List.getElem?_map, Option.map_eq_some_iff] at hfound
    rcases hfound with ⟨part, stored, rfl⟩
    rw [PropertyKey.ofInt_natCast]
    exact ⟨part, .element (PropertyKey.isNumeral_repr position) below stored, rfl⟩
  · rintro ⟨part, hstep, rfl⟩
    cases hstep with
    | @element _ text position _ numeral below stored =>
      refine ⟨position, below, ?_, ?_⟩
      · rw [PropertyKey.ofInt_natCast, PropertyKey.isNumeral_iff.mp numeral]
      · rw [List.getElem?_map, stored, Option.map_some]

theorem get?_ofDocument_object_eq_some_iff {members : List (String × Document)}
    (hsorted : Entries.Sorted members) :
    (ofDocument (.object members)).get? key = some found ↔
      ∃ part, (Document.object members).StepsTo key part ∧ found = ofDocument part := by
  rw [ofDocument, get?]
  cases key with
  | symbol id =>
    rw [find?_symbol_ofMembers]
    constructor
    · intro h
      contradiction
    · rintro ⟨part, hstep, -⟩
      cases hstep
  | name name =>
    rw [find?_name_ofMembers, Option.map_eq_some_iff]
    simp only [hsorted.find?_eq_some_iff]
    constructor
    · rintro ⟨part, stored, rfl⟩
      exact ⟨part, .member stored, rfl⟩
    · rintro ⟨part, hstep, rfl⟩
      cases hstep with
      | member stored => exact ⟨part, stored, rfl⟩

/-- Looking up a key in the value of a document finds the value of the part that the key leads to
in the document. -/
theorem get?_ofDocument_eq_some_iff (document : OrderedDocument) :
    (ofDocument document.content).get? key = some found ↔
      ∃ part, document.content.StepsTo key part ∧ found = ofDocument part := by
  rcases document with ⟨document, hwf⟩
  cases document with
  | array elements => exact get?_ofDocument_array_eq_some_iff
  | object members => exact get?_ofDocument_object_eq_some_iff hwf.1
  | null | bool _ | number _ | string _ =>
    constructor
    · intro h
      contradiction
    · rintro ⟨part, hstep, -⟩
      cases hstep

/-! ### Several steps -/

/-- Navigating the value of a document finds the value of the part that the path leads to in the
document. -/
theorem navigate?_ofDocument_eq_some_iff (document : OrderedDocument) {path : List PropertyKey} :
    (ofDocument document.content).navigate? path = some found ↔
      ∃ part, document.content.LeadsTo path part ∧ found = ofDocument part := by
  induction path generalizing document with
  | nil =>
    constructor
    · intro h
      exact ⟨document.content, .whole document.content, (Option.some.inj h).symm⟩
    · rintro ⟨part, hpath, rfl⟩
      cases hpath
      rfl
  | cons key path ih =>
    rw [navigate?_cons_eq_some_iff]
    constructor
    · rintro ⟨_, hnext, hfound⟩
      rcases (get?_ofDocument_eq_some_iff document).mp hnext with ⟨next, first, rfl⟩
      rcases (ih (document.part first)).mp hfound with ⟨part, rest, rfl⟩
      exact ⟨part, .step first rest, rfl⟩
    · rintro ⟨part, hpath, rfl⟩
      cases hpath with
      | @step _ next _ _ _ first rest =>
        refine ⟨ofDocument next,
          (get?_ofDocument_eq_some_iff document).mpr ⟨next, first, rfl⟩, ?_⟩
        exact (ih (document.part first)).mpr ⟨part, rest, rfl⟩

variable {document : Document}

/-- Conversion of documents commutes with navigation, whatever names, integers and symbols the path
is made of.

- Navigating the value of a document finds something exactly when the path leads to a part of the
  document, and then it finds the value of that part.
- A path leads to one part at most. -/
theorem ofDocument_commutes_with_navigation (hwf : document.WellFormed) (path : List GivenKey) :
    (∀ found, (ofDocument document).navigate? (path.map GivenKey.canonical) = some found ↔
      ∃ part, document.LeadsTo (path.map GivenKey.canonical) part ∧ found = ofDocument part) ∧
    ∀ part other, document.LeadsTo (path.map GivenKey.canonical) part →
      document.LeadsTo (path.map GivenKey.canonical) other → part = other :=
  ⟨fun _ => navigate?_ofDocument_eq_some_iff ⟨document, hwf⟩,
    fun _ _ => Document.LeadsTo.unique ⟨document, hwf⟩⟩

/-- One numeral names a member of an object and a position of the array that stands there, and a
third step finds nothing in a boolean. -/
theorem ofDocument_commutes_with_navigation_numeral :
    (Document.object [("1", .array [.null, .bool true])]).WellFormed ∧
      (ofDocument (.object [("1", .array [.null, .bool true])])).navigate?
        [.ofInt 1, .name "1"] = some (bool true) ∧
      ∀ part, ¬(Document.object [("1", .array [.null, .bool true])]).LeadsTo
        [.ofInt 1, .name "1", .name "length"] part := by
  have hwf : (Document.object [("1", .array [.null, .bool true])]).WellFormed :=
    ⟨List.pairwise_singleton _ _, ⟨trivial, trivial, trivial⟩, trivial⟩
  have hpath : (Document.object [("1", .array [.null, .bool true])]).LeadsTo
      [.ofInt 1, .name "1"] (.bool true) :=
    .step (.member (.head _)) (.step (.element (PropertyKey.isNumeral_repr 1) (by decide) rfl)
      (.whole _))
  refine ⟨hwf, ?_, ?_⟩
  · exact ((ofDocument_commutes_with_navigation hwf [.integer 1, .name "1"]).1 _).mpr
      ⟨_, hpath, rfl⟩
  · intro part h
    have hfound := ((ofDocument_commutes_with_navigation hwf
      [.integer 1, .name "1", .name "length"]).1 _).mpr ⟨part, h, rfl⟩
    contradiction

end Value
end DuckTyping
