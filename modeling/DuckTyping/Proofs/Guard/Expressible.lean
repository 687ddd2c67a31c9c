import DuckTyping.Proofs.Expectations.Canonical
import DuckTyping.Proofs.Guard.Members
import DuckTyping.Proofs.Guard.OfDocument
import DuckTyping.Proofs.Shape.Outcomes

/-!
# Contracts that documents can satisfy

Documents bind no symbols, and nothing in them is a bigint, a symbol or a function.  A contract
that lists such a key or such a kind is therefore satisfied by no document, whereas every other
contract has an object that carries what it lists.

Main definitions:

- `Document.IsOfKind`: what each kind asks of a document, in terms of its form.
- `Expectations.Expressible`: a contract lists names only, and kinds that documents can have.
- `Expectations.sampleDocument`: the object that carries what an expressible contract lists.

Main results:

- `Kind.exists_isOfKind_iff`: the kinds that documents can have.
- `Guard.check_object_iff_of_expressible`: which objects pass against an expressible contract.
- `Guard.expressible_of_check_passes`: nothing passes against any other contract.
- `Guard.satisfiable_by_documents`: what follows for values, arrays and narrowing.
-/

namespace DuckTyping

/-! ## Kinds of documents -/

/-- What each kind asks of a document. -/
inductive Document.IsOfKind : Document → Kind → Prop where
  | string (text : String) : IsOfKind (string text) .string
  | array (elements : List Document) : IsOfKind (array elements) .object
  | object (members : List (String × Document)) : IsOfKind (object members) .object
  | number (value : Number) : IsOfKind (number value) .number

/-- A document is of a kind exactly when it has the tag that the kind asks for. -/
theorem Document.isOfKind_iff {document : Document} {kind : Kind} :
    document.IsOfKind kind ↔ document.typeTag = kind.tag := by
  constructor
  · intro h
    cases h <;> rfl
  · intro h
    cases document with
    | null | bool _ => cases kind <;> contradiction
    | number value =>
      obtain rfl : Kind.number = kind := Kind.tag_injective h
      exact .number value
    | string text =>
      obtain rfl : Kind.string = kind := Kind.tag_injective h
      exact .string text
    | array elements =>
      obtain rfl : Kind.object = kind := Kind.tag_injective h
      exact .array elements
    | object members =>
      obtain rfl : Kind.object = kind := Kind.tag_injective h
      exact .object members

namespace Kind

/-- A document of a kind, if there are such documents. -/
def sampleDocument : Kind → OrderedDocument
  | string => ⟨.string "", trivial⟩
  | number => ⟨.number (.integer 0 (by decide)), trivial⟩
  | object | bigint | function | symbol => ⟨.object [], .nil, trivial⟩

theorem sampleDocument_isOfKind {kind : Kind}
    (h : kind = string ∨ kind = object ∨ kind = number) :
    kind.sampleDocument.content.IsOfKind kind := by
  rcases h with rfl | rfl | rfl
  · exact .string ""
  · exact .object []
  · exact .number _

/-- Documents have three kinds. -/
theorem exists_isOfKind_iff {kind : Kind} :
    (∃ document : Document, document.IsOfKind kind) ↔
      kind = string ∨ kind = object ∨ kind = number := by
  constructor
  · intro h
    rcases h with ⟨document, h⟩
    cases h with
    | string _ => exact Or.inl rfl
    | array _ | object _ => exact Or.inr (Or.inl rfl)
    | number _ => exact Or.inr (Or.inr rfl)
  · intro h
    exact ⟨kind.sampleDocument.content, sampleDocument_isOfKind h⟩

end Kind

/-! ## Expressible contracts -/

namespace Expectations

/-- A contract lists names only, and only kinds that documents can have. -/
def Expressible (expected : Expectations) : Prop :=
  ∀ key kind, expected.get? key = some kind →
    (∃ name, key = .name name) ∧ (kind = .string ∨ kind = .object ∨ kind = .number)

/-- The object that carries what an expressible contract lists. -/
def sampleDocument (expected : Expectations) : OrderedDocument :=
  namedObject Kind.sampleDocument expected

end Expectations

/-! ## What documents have -/

namespace Document

/-- No symbol is bound in a document. -/
theorem propertyTag_symbol (document : Document) (id : SymbolId) :
    document.propertyTag (.symbol id) = .undefined := by
  cases document <;> rfl

/-- What is found in a document has the tag of some document. -/
theorem exists_typeTag_eq_of_binds {document : Document} {key : PropertyKey} {tag : TypeTag}
    (h : document.Binds key tag) : ∃ content : Document, content.typeTag = tag := by
  cases h with
  | member stored => exact ⟨_, rfl⟩
  | ofArray bound =>
    cases bound with
    | element position inBounds below => exact ⟨_, rfl⟩
    | length => exact ⟨Kind.number.sampleDocument.content, rfl⟩

end Document

namespace Guard

variable {expected : Expectations}

/-- An object passes against an expressible contract exactly when it holds, under each listed name,
a document of the listed kind; what else it holds does not matter. -/
theorem check_object_iff_of_expressible (hexpressible : expected.Expressible)
    {members : List (String × Document)} :
    (check (Document.object members) expected).result = true ↔
      ∀ name kind, expected.get? (.name name) = some kind →
        ∃ content, Entries.find? name members = some content ∧ content.IsOfKind kind := by
  have hobject : isObject (Document.object members) = true := rfl
  simp only [check_result_iff, hobject, true_and, Document.isOfKind_iff,
    ← Document.propertyTag_object_name_eq_tag_iff]
  constructor
  · intro h name kind hlisted
    exact h (.name name) kind hlisted
  · intro h key kind hlisted
    rcases (hexpressible key kind hlisted).1 with ⟨name, rfl⟩
    exact h name kind hlisted

theorem check_sampleDocument_passes (hexpressible : expected.Expressible) :
    (check expected.sampleDocument.content expected).result = true := by
  rw [Expectations.sampleDocument, Expectations.namedObject,
    check_object_iff_of_expressible hexpressible]
  intro name kind hlisted
  refine ⟨kind.sampleDocument.content, ?_,
    Kind.sampleDocument_isOfKind (hexpressible _ kind hlisted).2⟩
  have hfound : Entries.find? (.name name) expected.entries = some kind := hlisted
  rw [Expectations.find?_namedMembers, hfound, Option.map_some]

/-- Documents pass only against expressible contracts. -/
theorem expressible_of_check_passes {document : Document}
    (h : (check document expected).result = true) : expected.Expressible := by
  intro key kind hlisted
  have htag : document.propertyTag key = kind.tag := (check_result_iff.mp h).2 key kind hlisted
  have hbound : document.propertyTag key ≠ .undefined := by
    rw [htag]
    exact kind.tag_ne_undefined
  constructor
  · cases key with
    | name name => exact ⟨name, rfl⟩
    | symbol id => exact absurd (document.propertyTag_symbol id) hbound
  · rcases Document.exists_typeTag_eq_of_binds (Document.binds_propertyTag hbound) with
      ⟨content, hcontent⟩
    rw [htag] at hcontent
    exact Kind.exists_isOfKind_iff.mp ⟨content, Document.isOfKind_iff.mpr hcontent⟩

/-! ## Contracts that are not expressible -/

section Inexpressible

variable (hinexpressible : ¬expected.Expressible)

include hinexpressible

theorem check_document_fails (document : Document) :
    (check document expected).result = false := by
  rw [Bool.eq_false_iff]
  exact mt expressible_of_check_passes hinexpressible

/-- Only the empty array has nothing that could fail. -/
theorem checkArray_document_iff_of_inexpressible (document : Document) :
    (checkArray document expected).result = true ↔ document = .array [] := by
  rw [checkArray_document_result_iff]
  constructor
  · rintro ⟨elements, rfl, hchecks⟩
    cases elements with
    | nil => rfl
    | cons element rest =>
      have hpass := hchecks element List.mem_cons_self
      rw [check_document_fails hinexpressible element] at hpass
      contradiction
  · rintro rfl
    exact ⟨[], rfl, fun _ hmem => absurd hmem List.not_mem_nil⟩

end Inexpressible

/-- A contract is satisfied by some document exactly when it lists only names, with strings, objects
and numbers.

- Against such a contract every object passes that holds a document of the listed kind under each
  name, whatever else it holds.
- Against any other contract no document passes, nor does the value of a document, and as a sequence
  only the empty array does; a shape with such a contract mismatches every document. -/
theorem satisfiable_by_documents (expected : Expectations) :
    ((∃ document : Document, document.WellFormed ∧ (check document expected).result = true) ↔
      ∀ key kind, expected.get? key = some kind →
        (∃ name, key = .name name) ∧ (kind = .string ∨ kind = .object ∨ kind = .number)) ∧
    (expected.Expressible → ∀ members : List (String × Document),
      (∀ name kind, expected.get? (.name name) = some kind →
        ∃ content, Entries.find? name members = some content ∧ content.IsOfKind kind) →
      (check (Document.object members) expected).result = true) ∧
    (¬expected.Expressible → ∀ document : Document,
      (check document expected).result = false ∧
      (check (Value.ofDocument document) expected).result = false ∧
      ((checkArray document expected).result = true ↔ document = .array []) ∧
      ((checkArray (Value.ofDocument document) expected).result = true ↔ document = .array []) ∧
      ∀ {α : Type} (shape : Shape α), shape.expectations = expected →
        (ensure shape document).result = .error (.shapeMismatch shape.name)) := by
  refine ⟨?_, ?_, ?_⟩
  · constructor
    · intro h
      rcases h with ⟨document, _, hpass⟩
      exact expressible_of_check_passes hpass
    · intro hexpressible
      exact ⟨expected.sampleDocument.content, expected.sampleDocument.wellFormed,
        check_sampleDocument_passes hexpressible⟩
  · intro hexpressible members hholds
    exact (check_object_iff_of_expressible hexpressible).mpr hholds
  · intro hinexpressible document
    have hfails := check_document_fails hinexpressible document
    have harray := checkArray_document_iff_of_inexpressible hinexpressible document
    refine ⟨hfails, ?_, harray, ?_, ?_⟩
    · rw [← (alike_ofDocument document).check_eq, hfails]
    · rw [← (elementsAlike_ofDocument document).checkArray_eq, harray]
    · rintro α shape rfl
      exact ensure_mismatch_of_check_fails hfails

/-- A contract for a string is satisfied by an object that holds one beside something else.  One
that also lists a symbol is satisfied by no document. -/
theorem satisfiable_by_documents_symbol :
    Expectations.Expressible (.ofList [(.name "a", .string)]) ∧
      (check (Document.object [("a", .string "x"), ("b", .null)])
        (.ofList [(.name "a", .string)])).result = true ∧
      ¬Expectations.Expressible (.ofList [(.name "a", .string), (.symbol ⟨1⟩, .number)]) ∧
      ∀ document : Document,
        (check document (.ofList [(.name "a", .string), (.symbol ⟨1⟩, .number)])).result =
          false := by
  have hlisted : ∀ key kind,
      (OrderedMap.ofList [(PropertyKey.name "a", Kind.string)]).get? key = some kind →
        key = .name "a" ∧ kind = .string := by
    intro key kind h
    have hentries : (OrderedMap.ofList [(PropertyKey.name "a", Kind.string)]).entries =
        [(.name "a", .string)] := rfl
    rw [OrderedMap.get?_eq_some_iff, hentries, List.mem_singleton, Prod.mk.injEq] at h
    exact h
  have hexpressible : Expectations.Expressible (.ofList [(.name "a", .string)]) := by
    intro key kind h
    rcases hlisted key kind h with ⟨rfl, rfl⟩
    exact ⟨⟨"a", rfl⟩, Or.inl rfl⟩
  have hinexpressible :
      ¬Expectations.Expressible (.ofList [(.name "a", .string), (.symbol ⟨1⟩, .number)]) := by
    intro h
    rcases (h (.symbol ⟨1⟩) .number (by decide)).1 with ⟨name, hname⟩
    contradiction
  refine ⟨hexpressible, ?_, hinexpressible, ?_⟩
  · apply (satisfiable_by_documents _).2.1 hexpressible
    intro name kind h
    rcases hlisted (.name name) kind h with ⟨hname, rfl⟩
    rw [PropertyKey.name.injEq] at hname
    subst hname
    exact ⟨.string "x", rfl, .string "x"⟩
  · intro document
    exact ((satisfiable_by_documents _).2.2 hinexpressible document).1

end Guard
end DuckTyping
