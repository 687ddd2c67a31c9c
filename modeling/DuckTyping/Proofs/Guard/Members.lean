import DuckTyping.Proofs.Expectations.Canonical
import DuckTyping.Proofs.Guard.Alike
import DuckTyping.Proofs.Guard.OwnBinding

/-!
# Checks of members

A contract that is given by names asks an object for its members.  If one of these names addresses
no position of an array, nor its length, then no array passes.

Main definitions:

- `Document.Holds`: a document is an object with a member of a given name and content.

Main results:

- `Guard.check_array_ofNamed_fails`: no array passes such a contract.
- `Guard.check_ofNamed_iff_holds`: such a contract is passed by the objects that hold what it lists.
- `Guard.check_object_eq_of_lookups`: members that such a contract does not list never matter.
-/

namespace DuckTyping

/-! ## Members -/

namespace Document

/-- A document is an object with a member of a given name and content. -/
def Holds (document : Document) (name : String) (content : Document) : Prop :=
  ∃ members, document = object members ∧ (name, content) ∈ members

theorem holds_object_iff {members : List (String × Document)} (hsorted : Entries.Sorted members)
    {name : String} {content : Document} :
    (object members).Holds name content ↔ Entries.find? name members = some content := by
  simp [Holds, hsorted.find?_eq_some_iff]

/-- A well-formed document holds one thing under a name. -/
theorem Holds.unique (document : OrderedDocument) {name : String} {content other : Document}
    (h : document.content.Holds name content) (hother : document.content.Holds name other) :
    content = other := by
  rcases document with ⟨document, hwf⟩
  rcases h with ⟨members, rfl, hmem⟩
  rw [holds_object_iff hwf.1] at hother
  rw [← hwf.1.find?_eq_some_iff, hother] at hmem
  exact (Option.some.inj hmem).symm

/-- Only objects hold anything. -/
theorem exists_object_of_holds {document : Document} {name : String} {content : Document}
    (h : document.Holds name content) : ∃ members, document = object members := by
  rcases h with ⟨members, rfl, -⟩
  exact ⟨members, rfl⟩

theorem exists_holds_string_iff {document : Document} {name : String} :
    (∃ content, document.Holds name content ∧ content.typeTag = .string) ↔
      ∃ text, document.Holds name (.string text) := by
  constructor
  · intro h
    rcases h with ⟨content, hholds, htag⟩
    cases content with
    | string text => exact ⟨text, hholds⟩
    | null | bool _ | number _ | array _ | object _ => contradiction
  · intro h
    rcases h with ⟨text, hholds⟩
    exact ⟨.string text, hholds, rfl⟩

theorem exists_holds_number_iff {document : Document} {name : String} :
    (∃ content, document.Holds name content ∧ content.typeTag = .number) ↔
      ∃ number, document.Holds name (.number number) := by
  constructor
  · intro h
    rcases h with ⟨content, hholds, htag⟩
    cases content with
    | number found => exact ⟨found, hholds⟩
    | null | bool _ | string _ | array _ | object _ => contradiction
  · intro h
    rcases h with ⟨found, hholds⟩
    exact ⟨.number found, hholds, rfl⟩

/-- The property of an object under a name is that of the member of that name. -/
theorem propertyTag_object_name (members : List (String × Document)) (name : String) :
    (object members).propertyTag (.name name) =
      ((Entries.find? name members).map typeTag).getD .undefined := by
  simp only [propertyTag, PropertyKey.asName?, Option.bind_some]
  cases Entries.find? name members <;> rfl

theorem propertyTag_object_name_eq_tag_iff {members : List (String × Document)} {name : String}
    {kind : Kind} :
    (object members).propertyTag (.name name) = kind.tag ↔
      ∃ content, Entries.find? name members = some content ∧ content.typeTag = kind.tag := by
  rw [propertyTag_object_name]
  cases Entries.find? name members with
  | none => simp [kind.tag_ne_undefined.symm]
  | some content => simp

end Document

/-! ## Contracts by names -/

namespace Expectations

variable {entries : List (String × Kind)}

/-- A contract that is given by names lists nothing else. -/
theorem mem_of_mem_ofNamed {entry : PropertyKey × Kind} (h : entry ∈ (ofNamed entries).entries) :
    ∃ named ∈ entries, entry = (.name named.1, named.2) := by
  rw [ofNamed, OrderedMap.entries_ofList] at h
  rcases Entries.mem_of_mem_extend h with hmem | hmem
  · contradiction
  · rcases List.mem_map.mp hmem with ⟨named, hnamed, rfl⟩
    exact ⟨named, hnamed, rfl⟩

/-- A contract that is given by different names lists each of them. -/
theorem mem_ofNamed (hnodup : (entries.map Prod.fst).Nodup) {named : String × Kind}
    (h : named ∈ entries) : (PropertyKey.name named.1, named.2) ∈ (ofNamed entries).entries := by
  rw [← OrderedMap.get?_eq_some_iff, get?_ofNamed_name, Entries.find?_reverse_of_nodup hnodup,
    Entries.find?_eq_some_iff_of_nodup hnodup]
  exact h

end Expectations

namespace Guard

variable {entries : List (String × Kind)}

/-- Each name of a contract asks for a property of its kind. -/
theorem check_ofNamed_iff {α : Type} [Reflection α] {value : α}
    (hnodup : (entries.map Prod.fst).Nodup) :
    (check value (.ofNamed entries)).result = true ↔
      isObject value = true ∧
        ∀ named ∈ entries, Reflection.propertyTag value (.name named.1) = named.2.tag := by
  rw [check_result_iff]
  apply and_congr_right
  intro _
  constructor
  · intro h named hnamed
    apply h
    rw [OrderedMap.get?_eq_some_iff]
    exact Expectations.mem_ofNamed hnodup hnamed
  · intro h key kind hlisted
    rw [OrderedMap.get?_eq_some_iff] at hlisted
    rcases Expectations.mem_of_mem_ofNamed hlisted with ⟨named, hnamed, heq⟩
    rcases Prod.mk.inj heq with ⟨rfl, rfl⟩
    exact h named hnamed

/-- No array passes a contract with a name that neither is a numeral nor asks for the length. -/
theorem check_array_ofNamed_fails (hnodup : (entries.map Prod.fst).Nodup)
    (hnames : ∃ named ∈ entries, named.1 ≠ Reflection.lengthName ∧
      (PropertyKey.name named.1).arrayIndex? = none) (elements : List Document) :
    (check (Document.array elements) (.ofNamed entries)).result = false := by
  rcases hnames with ⟨named, hnamed, hlength, hindex⟩
  rw [Bool.eq_false_iff]
  intro hpass
  have htag : Reflection.sequencePropertyTag Document.typeTag elements (.name named.1) =
      named.2.tag := ((check_ofNamed_iff hnodup).mp hpass).2 named hnamed
  have hkey : PropertyKey.name named.1 ≠ .name Reflection.lengthName := by simpa using hlength
  rw [Reflection.sequencePropertyTag_eq_undefined hkey hindex] at htag
  exact named.2.tag_ne_undefined htag.symm

/-- A contract with a name that no array answers to is passed by the objects that hold, under each
of its names, something of the kind that it lists there. -/
theorem check_ofNamed_iff_holds (document : OrderedDocument)
    (hnodup : (entries.map Prod.fst).Nodup)
    (hnames : ∃ named ∈ entries, named.1 ≠ Reflection.lengthName ∧
      (PropertyKey.name named.1).arrayIndex? = none) :
    (check document.content (.ofNamed entries)).result = true ↔
      ∀ named ∈ entries, ∃ content, document.content.Holds named.1 content ∧
        content.typeTag = named.2.tag := by
  rcases document with ⟨document, hwf⟩
  by_cases hobject : ∃ members, document = .object members
  · rcases hobject with ⟨members, rfl⟩
    have hisObject : isObject (Document.object members) = true := rfl
    simp only [check_ofNamed_iff hnodup, hisObject, true_and, Document.holds_object_iff hwf.1,
      ← Document.propertyTag_object_name_eq_tag_iff]
    rfl
  · constructor
    · intro hpass
      have hisObject := (check_result_iff.mp hpass).1
      rw [isObject_iff] at hisObject
      rcases Document.typeTag_eq_object_iff.mp hisObject with ⟨elements, rfl⟩ | hmembers
      · rw [check_array_ofNamed_fails hnodup hnames elements] at hpass
        contradiction
      · contradiction
    · intro h
      rcases hnames with ⟨named, hnamed, -⟩
      rcases h named hnamed with ⟨content, hholds, -⟩
      exact absurd (Document.exists_object_of_holds hholds) hobject

/-- Two objects in which the names of a contract find the same are checked alike. -/
theorem check_object_eq_of_lookups {members others : List (String × Document)}
    (h : ∀ named ∈ entries, Entries.find? named.1 members = Entries.find? named.1 others) :
    check (Document.object members) (.ofNamed entries) =
      check (Document.object others) (.ofNamed entries) := by
  have hobject : isObject (Document.object members) = isObject (Document.object others) := rfl
  apply check_eq_of_listed hobject
  intro entry hentry
  rcases Expectations.mem_of_mem_ofNamed hentry with ⟨named, hnamed, rfl⟩
  change (Document.object members).propertyTag (.name named.1) =
    (Document.object others).propertyTag (.name named.1)
  rw [Document.propertyTag_object_name, Document.propertyTag_object_name, h named hnamed]

end Guard
end DuckTyping
