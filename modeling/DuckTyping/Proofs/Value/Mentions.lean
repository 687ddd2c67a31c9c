import DuckTyping.Proofs.Bindings
import DuckTyping.Proofs.Value.Parts
import DuckTyping.Reflection
import DuckTyping.Value.Equality

/-!
# Symbols in values

A value mentions a symbol where it holds the symbol or binds a property under it, at any depth.
Building and editing values moves symbols around but brings no new ones in, and documents have
none.

Main definitions:

- `Value.Mentions`, `OrderedValue.Mentions`: a symbol occurs in a value.

Main results:

- `Value.mentions_array_iff`, `Value.mentions_object_iff`: what arrays and objects mention.
- `Value.not_mentions_ofDocument`: values of documents mention no symbol.
- `Value.mentions_of_put?`, `Value.mentions_of_take?`, `Value.mentions_of_push?`,
  `Value.mentions_of_pop?`: what edited objects and arrays mention.
- `Value.get?_eq_none_of_not_mentions`, `Value.propertyTag_eq_undefined_of_not_mentions`: nothing is
  bound under a symbol that is not mentioned.
-/

namespace DuckTyping

/-- A key is the key of a symbol. -/
def PropertyKey.Mentions (key : PropertyKey) (id : SymbolId) : Prop :=
  key = .symbol id

namespace Value

/-- A symbol occurs in a value: a part of the value is the symbol, or is an object that has a
property under it. -/
def Mentions (value : Value) (id : SymbolId) : Prop :=
  (∃ token : Symbol, PartOf (symbol token) value ∧ token.id = id) ∨
    ∃ properties, PartOf (object properties) value ∧ .symbol id ∈ properties.map Prod.fst

variable {id : SymbolId}

/-! ## Forms of values -/

/-- What a part of a value mentions, the value mentions. -/
theorem Mentions.of_part {part value : Value} (hpart : PartOf part value)
    (h : part.Mentions id) : value.Mentions id := by
  rcases h with ⟨token, htoken, hid⟩ | ⟨properties, hobject, hbound⟩
  · exact Or.inl ⟨token, htoken.trans hpart, hid⟩
  · exact Or.inr ⟨properties, hobject.trans hpart, hbound⟩

@[simp]
theorem mentions_symbol_iff {token : Symbol} : (symbol token).Mentions id ↔ token.id = id := by
  have hleaf : (symbol token).IsLeaf := trivial
  simp [Mentions, partOf_leaf_iff hleaf]

/-- Leaves that are not symbols mention none. -/
theorem not_mentions_leaf {value : Value} (hleaf : value.IsLeaf)
    (hsymbol : value.typeTag ≠ .symbol) : ¬ value.Mentions id := by
  simp only [Mentions, partOf_leaf_iff hleaf]
  rintro (⟨token, rfl, -⟩ | ⟨properties, rfl, -⟩)
  · exact hsymbol rfl
  · exact hleaf

/-- An array mentions what its elements mention. -/
@[simp]
theorem mentions_array_iff {elements : List Value} :
    (array elements).Mentions id ↔ ∃ element ∈ elements, element.Mentions id := by
  constructor
  · simp only [Mentions, partOf_array_iff]
    rintro (⟨token, htoken | ⟨element, hmem, htoken⟩, hid⟩ |
      ⟨properties, hobject | ⟨element, hmem, hobject⟩, hbound⟩)
    · contradiction
    · exact ⟨element, hmem, Or.inl ⟨token, htoken, hid⟩⟩
    · contradiction
    · exact ⟨element, hmem, Or.inr ⟨properties, hobject, hbound⟩⟩
  · rintro ⟨element, hmem, h⟩
    exact h.of_part (.element hmem (.whole element))

/-- An object mentions the symbols among its keys and what its properties are bound to. -/
@[simp]
theorem mentions_object_iff {properties : List (PropertyKey × Value)} :
    (object properties).Mentions id ↔
      ∃ entry ∈ properties, entry.1.Mentions id ∨ entry.2.Mentions id := by
  constructor
  · simp only [Mentions, partOf_object_iff]
    rintro (⟨token, htoken | ⟨entry, hmem, htoken⟩, hid⟩ |
      ⟨inner, hobject | ⟨entry, hmem, hobject⟩, hbound⟩)
    · contradiction
    · exact ⟨entry, hmem, Or.inr (Or.inl ⟨token, htoken, hid⟩)⟩
    · cases hobject
      rcases List.mem_map.mp hbound with ⟨entry, hmem, hkey⟩
      exact ⟨entry, hmem, Or.inl hkey⟩
    · exact ⟨entry, hmem, Or.inr (Or.inr ⟨inner, hobject, hbound⟩)⟩
  · rintro ⟨entry, hmem, hkey | h⟩
    · exact Or.inr ⟨properties, .whole _, List.mem_map.mpr ⟨entry, hmem, hkey⟩⟩
    · exact h.of_part (.property hmem (.whole entry.2))

theorem mentions_array_cons {element : Value} {rest : List Value} :
    (array (element :: rest)).Mentions id ↔ element.Mentions id ∨ (array rest).Mentions id := by
  simp

theorem mentions_object_cons {key : PropertyKey} {content : Value}
    {rest : List (PropertyKey × Value)} :
    (object ((key, content) :: rest)).Mentions id ↔
      key.Mentions id ∨ content.Mentions id ∨ (object rest).Mentions id := by
  simp [or_assoc]

/-! ## Documents -/

mutual

/-- The value of a document mentions no symbol. -/
theorem not_mentions_ofDocument :
    ∀ document : Document, ¬ (ofDocument document).Mentions id
  | .null | .bool _ | .number _ | .string _ => not_mentions_leaf trivial nofun
  | .array elements => not_mentions_ofElements elements
  | .object members => not_mentions_ofMembers members

/-- The values of elements mention no symbol. -/
theorem not_mentions_ofElements :
    ∀ elements : List Document, ¬ (array (ofElements elements)).Mentions id
  | [] => by simp [ofElements]
  | element :: rest => by
    rw [ofElements, mentions_array_cons, not_or]
    exact ⟨not_mentions_ofDocument element, not_mentions_ofElements rest⟩

/-- The properties that members become mention no symbol. -/
theorem not_mentions_ofMembers :
    ∀ members : List (String × Document), ¬ (object (ofMembers members)).Mentions id
  | [] => by simp [ofMembers]
  | (_, document) :: rest => by
    rw [ofMembers, mentions_object_cons, not_or, not_or]
    exact ⟨nofun, not_mentions_ofDocument document, not_mentions_ofMembers rest⟩

end

/-! ## Building and editing -/

/-- An object mentions no more than a list that has all of its properties. -/
theorem Mentions.of_subset {xs ys : List (PropertyKey × Value)} (hsubset : xs ⊆ ys)
    (h : (object xs).Mentions id) : (object ys).Mentions id := by
  rw [mentions_object_iff] at h ⊢
  rcases h with ⟨entry, hmem, h⟩
  exact ⟨entry, hsubset hmem, h⟩

/-- The object of a list of bindings mentions no more than the bindings. -/
theorem mentions_of_ofEntries {bindings : List (PropertyKey × Value)}
    (h : (ofEntries bindings).Mentions id) : (object bindings).Mentions id := by
  apply h.of_subset
  intro entry hmem
  rcases Entries.mem_of_mem_extend hmem with hnil | hmem
  · contradiction
  · exact hmem

/-- After binding a property an object mentions what it did before, the key and the item. -/
theorem mentions_of_put? {value item revised : Value} {key : PropertyKey} {previous : Option Value}
    (hput : value.put? key item = some (previous, revised)) (h : revised.Mentions id) :
    value.Mentions id ∨ key.Mentions id ∨ item.Mentions id := by
  cases value with
  | object properties =>
    have hrevised : object (Entries.put key item properties).2 = revised :=
      congrArg Prod.snd (Option.some.inj hput)
    rw [← hrevised, Entries.put_snd, mentions_object_iff] at h
    rcases h with ⟨entry, hmem, h⟩
    rcases Entries.mem_of_mem_insert hmem with rfl | hmem
    · exact Or.inr h
    · exact Or.inl (mentions_object_iff.mpr ⟨entry, hmem, h⟩)
  | _ => contradiction

/-- After unbinding a property an object mentions no more than before. -/
theorem mentions_of_take? {value revised : Value} {key : PropertyKey} {previous : Option Value}
    (htake : value.take? key = some (previous, revised)) (h : revised.Mentions id) :
    value.Mentions id := by
  cases value with
  | object properties =>
    have hrevised : object (Entries.take key properties).2 = revised :=
      congrArg Prod.snd (Option.some.inj htake)
    rw [← hrevised] at h
    exact h.of_subset (Entries.take_subset key properties)
  | _ => contradiction

/-- After a push an array mentions what it did before and what the element mentions. -/
theorem mentions_of_push? {value item revised : Value} (hpush : value.push? item = some revised)
    (h : revised.Mentions id) : value.Mentions id ∨ item.Mentions id := by
  cases value with
  | array elements =>
    cases hpush
    simp only [mentions_array_iff, List.mem_append, List.mem_singleton] at h ⊢
    rcases h with ⟨element, hmem | rfl, h⟩
    · exact Or.inl ⟨element, hmem, h⟩
    · exact Or.inr h
  | _ => contradiction

/-- After a pop an array mentions no more than before. -/
theorem mentions_of_pop? {value revised : Value} {last : Option Value}
    (hpop : value.pop? = some (last, revised)) (h : revised.Mentions id) : value.Mentions id := by
  cases value with
  | array elements =>
    cases hpop
    rw [mentions_array_iff] at h ⊢
    rcases h with ⟨element, hmem, h⟩
    exact ⟨element, (List.dropLast_sublist elements).subset hmem, h⟩
  | _ => contradiction

/-! ## Symbols that are not mentioned -/

/-- Nothing is bound under a symbol that is not mentioned. -/
theorem get?_eq_none_of_not_mentions {value : Value} (h : ¬ value.Mentions id) :
    value.get? (.symbol id) = none := by
  cases value with
  | object properties =>
    apply Entries.find?_eq_none_iff.mpr
    intro entry hmem hkey
    exact h (mentions_object_iff.mpr ⟨entry, hmem, Or.inl hkey⟩)
  | _ => rfl

/-- Every property under a symbol that is not mentioned is undefined. -/
theorem propertyTag_eq_undefined_of_not_mentions {value : Value} (h : ¬ value.Mentions id) :
    value.propertyTag (.symbol id) = .undefined := by
  cases value with
  | object properties =>
    have hget : Entries.find? (.symbol id) properties = none := get?_eq_none_of_not_mentions h
    rw [propertyTag, hget]
  | _ => rfl

end Value

/-- A symbol occurs in a well-formed value. -/
def OrderedValue.Mentions (value : OrderedValue) : SymbolId → Prop :=
  value.content.Mentions

end DuckTyping
