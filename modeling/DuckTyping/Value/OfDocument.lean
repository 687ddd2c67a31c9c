import DuckTyping.Document
import DuckTyping.Value

/-!
# Documents as values

Every document is a value: numbers become doubles, and names become keys.

Main definitions:

- `Value.ofDocument`: the value of a document.
- `OrderedValue.ofDocument`: the value of a well-formed document, which is well-formed.

Main results:

- `Value.ofDocument_wellFormed`: the value of a well-formed document is well-formed.
-/

namespace DuckTyping
namespace Value

mutual

/-- The value of a document. -/
def ofDocument : Document → Value
  | .null => null
  | .bool value => bool value
  | .number value => number value.toDouble
  | .string text => string text
  | .array elements => array (ofElements elements)
  | .object members => object (ofMembers members)

/-- The values of the elements of an array. -/
def ofElements : List Document → List Value
  | [] => []
  | element :: rest => ofDocument element :: ofElements rest

/-- The properties that the members of an object become. -/
def ofMembers : List (String × Document) → List (PropertyKey × Value)
  | [] => []
  | (name, document) :: rest => (.name name, ofDocument document) :: ofMembers rest

end

/-- The elements of an array are converted one by one. -/
theorem ofElements_eq_map (elements : List Document) :
    ofElements elements = elements.map ofDocument := by
  induction elements with
  | nil => rfl
  | cons element rest ih => simp [ofElements, ih]

/-- The members of an object are converted one by one. -/
theorem ofMembers_eq_map (members : List (String × Document)) :
    ofMembers members = members.map fun entry => (.name entry.1, ofDocument entry.2) := by
  induction members with
  | nil => rfl
  | cons entry rest ih =>
    rcases entry with ⟨name, document⟩
    simp [ofMembers, ih]

/-- A name is bound in the value of an object to the value of what it is bound to there. -/
theorem find?_name_ofMembers (name : String) (members : List (String × Document)) :
    Entries.find? (.name name) (ofMembers members) =
      (Entries.find? name members).map ofDocument := by
  induction members with
  | nil => rfl
  | cons entry rest ih =>
    rcases entry with ⟨other, document⟩
    by_cases h : other = name <;> simp [ofMembers, Entries.find?_cons, h, ih]

/-- No symbol is bound in the value of an object. -/
theorem find?_symbol_ofMembers (id : SymbolId) (members : List (String × Document)) :
    Entries.find? (.symbol id) (ofMembers members) = none := by
  induction members with
  | nil => rfl
  | cons entry rest ih =>
    rcases entry with ⟨other, document⟩
    simp [ofMembers, Entries.find?_cons, ih]

mutual

/-- The value of a well-formed document is well-formed. -/
theorem ofDocument_wellFormed :
    ∀ document : Document, document.WellFormed → (ofDocument document).WellFormed
  | .null, _ | .bool _, _ | .number _, _ | .string _, _ => by simp [ofDocument, WellFormed]
  | .array elements, h => by
    rw [Document.WellFormed] at h
    rw [ofDocument, WellFormed]
    exact ofElements_wellFormed elements h
  | .object members, h => by
    rw [Document.WellFormed] at h
    rw [ofDocument, WellFormed]
    refine ⟨?_, ofMembers_wellFormed members h.2⟩
    rw [ofMembers_eq_map]
    exact List.pairwise_map.mpr h.1

/-- The values of well-formed elements are well-formed. -/
theorem ofElements_wellFormed : ∀ elements : List Document,
    Document.ElementsWellFormed elements → ElementsWellFormed (ofElements elements)
  | [], _ => by simp [ofElements, ElementsWellFormed]
  | element :: rest, h => by
    rw [Document.ElementsWellFormed] at h
    rw [ofElements, ElementsWellFormed]
    exact ⟨ofDocument_wellFormed element h.1, ofElements_wellFormed rest h.2⟩

/-- The values of well-formed members are well-formed. -/
theorem ofMembers_wellFormed : ∀ members : List (String × Document),
    Document.MembersWellFormed members → PropertiesWellFormed (ofMembers members)
  | [], _ => by simp [ofMembers, PropertiesWellFormed]
  | (_, document) :: rest, h => by
    rw [Document.MembersWellFormed] at h
    rw [ofMembers, PropertiesWellFormed]
    exact ⟨ofDocument_wellFormed document h.1, ofMembers_wellFormed rest h.2⟩

end

end Value

/-- The value of a well-formed document. -/
def OrderedValue.ofDocument (document : OrderedDocument) : OrderedValue where
  content := .ofDocument document.content
  wellFormed := Value.ofDocument_wellFormed document.content document.wellFormed

end DuckTyping
