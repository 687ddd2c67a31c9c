import DuckTyping.Double
import DuckTyping.OrderedMap
import DuckTyping.PropertyKey

/-!
# Values

Values cover every tag: beside what documents can hold there are undefined, integers of arbitrary
size, symbols and functions.  Symbols and functions have an identity, which copies keep.  An object
lists its properties by increasing key; `Value.WellFormed` says so at every depth, and
`OrderedValue` bundles a value with the proof of it, so that what is built and edited by its
operations is well-formed.

Main definitions:

- `Symbol`, `Function`, `Value`: the data.
- `Value.get?`: the value bound under a key.
- `Value.ofEntries`: the object that a list of bindings leaves.
- `Value.put?`, `Value.take?`, `Value.push?`, `Value.pop?`: editing objects and arrays.
- `OrderedValue`: a well-formed value, with the same ways to build and to edit it.
- `Function.call`: applying a function to arguments.

Main results:

- `Value.ofEntries_wellFormed`: objects are built well-formed.
- `Value.put?_wellFormed`, `Value.take?_wellFormed`, `Value.push?_wellFormed`,
  `Value.pop?_wellFormed`: edits keep values well-formed.
-/

namespace DuckTyping

/-! ## Data -/

/-- An opaque unique token. -/
structure Symbol where
  id : SymbolId
  /-- A description for the reader, which plays no part in identity. -/
  description : Option String
deriving DecidableEq, Repr, Inhabited

/-- The key of the property that a symbol addresses. -/
def Symbol.key (symbol : Symbol) : PropertyKey :=
  .symbol symbol.id

/-- What a function does with its arguments.  A function of the library may do anything with them;
these six bodies stand for all others, because a session can only be told of a body that has a name.
Nothing but `Function.call` depends on which bodies there are: reflection and the guards see of a
function that it is one, and equality its identity. -/
inductive Body where
  /-- Give undefined. -/
  | undefined
  /-- Give null. -/
  | null
  /-- Give the first argument, or undefined without arguments. -/
  | first
  /-- Give the number of arguments. -/
  | count
  /-- Give the array of the arguments. -/
  | array
  /-- Give twice the first argument if it is a number, and undefined otherwise. -/
  | double
deriving DecidableEq, Repr, Inhabited

/-- A named callable value. -/
structure Function where
  /-- The identity of the function. -/
  id : Nat
  name : String
  body : Body
deriving DecidableEq, Repr, Inhabited

/-- How a function is shown. -/
def Function.display (function : Function) : String :=
  "Function(" ++ function.name ++ ")"

/-- A dynamically typed value. -/
inductive Value where
  | undefined
  | null
  | bool (value : Bool)
  | number (value : Double)
  | bigint (value : Int)
  | string (text : String)
  | symbol (value : Symbol)
  | function (value : Function)
  | array (elements : List Value)
  | object (properties : List (PropertyKey × Value))
deriving Repr, Inhabited

namespace Value

/-! ## Well-formed values -/

mutual

/-- Every object lists its properties by increasing key. -/
def WellFormed : Value → Prop
  | array elements => ElementsWellFormed elements
  | object properties => Entries.Sorted properties ∧ PropertiesWellFormed properties
  | _ => True

/-- Every element is well-formed. -/
def ElementsWellFormed : List Value → Prop
  | [] => True
  | element :: rest => element.WellFormed ∧ ElementsWellFormed rest

/-- Every property is bound to a well-formed value. -/
def PropertiesWellFormed : List (PropertyKey × Value) → Prop
  | [] => True
  | (_, value) :: rest => value.WellFormed ∧ PropertiesWellFormed rest

end

/-- Elements are well-formed together when each of them is. -/
theorem elementsWellFormed_iff {elements : List Value} :
    ElementsWellFormed elements ↔ ∀ element ∈ elements, element.WellFormed := by
  induction elements with
  | nil => simp [ElementsWellFormed]
  | cons element rest ih => simp [ElementsWellFormed, ih]

/-- Properties are well-formed together when each of them is bound to a well-formed value. -/
theorem propertiesWellFormed_iff {properties : List (PropertyKey × Value)} :
    PropertiesWellFormed properties ↔ ∀ entry ∈ properties, entry.2.WellFormed := by
  induction properties with
  | nil => simp [PropertiesWellFormed]
  | cons entry rest ih =>
    rcases entry with ⟨key, value⟩
    simp [PropertiesWellFormed, ih]

/-! ## Construction -/

/-- The number nearest to an integer. -/
def ofInt (n : Int) : Value :=
  number (Double.ofInt n)

/-- The object that a list of bindings leaves; the last binding of a key wins. -/
def ofEntries (bindings : List (PropertyKey × Value)) : Value :=
  object (Entries.ofList bindings)

/-- An optional value is the value itself, or null where there is none. -/
def ofOption : Option Value → Value
  | some value => value
  | none => null

/-! ## Looking up -/

/-- The value bound under a key: a property of an object or an element of an array. -/
def get? (value : Value) (key : PropertyKey) : Option Value :=
  match value with
  | object properties => Entries.find? key properties
  | array elements => key.arrayIndex?.bind fun index => elements[index]?
  | _ => none

/-- Whether a value is undefined. -/
def isUndefined : Value → Bool
  | undefined => true
  | _ => false

/-! ## Editing -/

/-- Bind a property of an object; the result holds what the key was bound to. -/
def put? (value : Value) (key : PropertyKey) (item : Value) : Option (Option Value × Value) :=
  match value with
  | object properties =>
    let (previous, properties) := Entries.put key item properties
    some (previous, object properties)
  | _ => none

/-- Unbind a property of an object; the result holds what the key was bound to. -/
def take? (value : Value) (key : PropertyKey) : Option (Option Value × Value) :=
  match value with
  | object properties =>
    let (previous, properties) := Entries.take key properties
    some (previous, object properties)
  | _ => none

/-- Append an element to an array. -/
def push? (value item : Value) : Option Value :=
  match value with
  | array elements => some (array (elements ++ [item]))
  | _ => none

/-- Drop the last element of an array, if it has one; the result holds that element. -/
def pop? (value : Value) : Option (Option Value × Value) :=
  match value with
  | array elements => some (elements.getLast?, array elements.dropLast)
  | _ => none

/-! ## Editing keeps values well-formed -/

section Keeping

variable {value item revised : Value} {key : PropertyKey} {previous : Option Value}

theorem wellFormed_array_iff {elements : List Value} :
    (array elements).WellFormed ↔ ∀ element ∈ elements, element.WellFormed := by
  rw [WellFormed, elementsWellFormed_iff]

theorem wellFormed_object_iff {properties : List (PropertyKey × Value)} :
    (object properties).WellFormed ↔
      Entries.Sorted properties ∧ ∀ entry ∈ properties, entry.2.WellFormed := by
  rw [WellFormed, propertiesWellFormed_iff]

/-- The object that bindings of well-formed values leave is well-formed. -/
theorem ofEntries_wellFormed {bindings : List (PropertyKey × Value)}
    (h : ∀ entry ∈ bindings, entry.2.WellFormed) : (ofEntries bindings).WellFormed := by
  rw [ofEntries, wellFormed_object_iff]
  refine ⟨Entries.sorted_ofList bindings, ?_⟩
  intro entry hentry
  rcases Entries.mem_of_mem_extend hentry with hnil | hmem
  · contradiction
  · exact h entry hmem

/-- Binding a property to a well-formed value keeps a value well-formed. -/
theorem put?_wellFormed (hvalue : value.WellFormed) (hitem : item.WellFormed)
    (h : value.put? key item = some (previous, revised)) : revised.WellFormed := by
  cases value with
  | object properties =>
    have hrevised : object (Entries.put key item properties).2 = revised :=
      congrArg Prod.snd (Option.some.inj h)
    rw [wellFormed_object_iff] at hvalue
    rw [← hrevised, Entries.put_snd, wellFormed_object_iff]
    refine ⟨hvalue.1.insert key item, ?_⟩
    intro entry hentry
    rcases Entries.mem_of_mem_insert hentry with rfl | hmem
    · exact hitem
    · exact hvalue.2 entry hmem
  | _ => contradiction

/-- Unbinding a property keeps a value well-formed. -/
theorem take?_wellFormed (hvalue : value.WellFormed)
    (h : value.take? key = some (previous, revised)) : revised.WellFormed := by
  cases value with
  | object properties =>
    have hrevised : object (Entries.take key properties).2 = revised :=
      congrArg Prod.snd (Option.some.inj h)
    rw [wellFormed_object_iff] at hvalue
    rw [← hrevised, hvalue.1.take_eq, wellFormed_object_iff]
    refine ⟨hvalue.1.erase key, ?_⟩
    intro entry hentry
    exact hvalue.2 entry (List.mem_filter.mp hentry).1
  | _ => contradiction

/-- Appending a well-formed element keeps a value well-formed. -/
theorem push?_wellFormed (hvalue : value.WellFormed) (hitem : item.WellFormed)
    (h : value.push? item = some revised) : revised.WellFormed := by
  cases value with
  | array elements =>
    cases h
    rw [wellFormed_array_iff] at hvalue ⊢
    intro element hmem
    rcases List.mem_append.mp hmem with hold | hnew
    · exact hvalue element hold
    · rw [List.mem_singleton.mp hnew]
      exact hitem
  | _ => contradiction

/-- Dropping the last element keeps a value well-formed. -/
theorem pop?_wellFormed (hvalue : value.WellFormed) (h : value.pop? = some (previous, revised)) :
    revised.WellFormed := by
  cases value with
  | array elements =>
    cases h
    rw [wellFormed_array_iff] at hvalue ⊢
    intro element hmem
    exact hvalue element ((List.dropLast_sublist elements).subset hmem)
  | _ => contradiction

end Keeping

end Value

/-! ## Bundled values -/

/-- A value all of whose objects list their properties by increasing key. -/
structure OrderedValue where
  content : Value
  wellFormed : content.WellFormed

namespace OrderedValue

/-- The array of a list of values. -/
def array (elements : List OrderedValue) : OrderedValue where
  content := .array (elements.map content)
  wellFormed := Value.wellFormed_array_iff.mpr <| List.forall_mem_map.mpr fun element _ =>
    element.wellFormed

/-- The object that a list of bindings leaves; the last binding of a key wins. -/
def ofEntries (bindings : List (PropertyKey × OrderedValue)) : OrderedValue where
  content := .ofEntries (bindings.map fun entry => (entry.1, entry.2.content))
  wellFormed := Value.ofEntries_wellFormed <| List.forall_mem_map.mpr fun entry _ =>
    entry.2.wellFormed

/-- An optional value is the value itself, or null where there is none. -/
def ofOption : Option OrderedValue → OrderedValue
  | some value => value
  | none => ⟨.null, trivial⟩

/-- What an edit gives, bundled with the proof that it keeps values well-formed. -/
def keep (edit : Option (Option Value × Value))
    (h : ∀ previous revised, edit = some (previous, revised) → revised.WellFormed) :
    Option (Option Value × OrderedValue) :=
  edit.pmap (fun result wellFormed => (result.1, ⟨result.2, wellFormed⟩)) fun result =>
    h result.1 result.2

/-- Bind a property of an object; the result holds what the key was bound to. -/
def put? (value : OrderedValue) (key : PropertyKey) (item : OrderedValue) :
    Option (Option Value × OrderedValue) :=
  keep (value.content.put? key item.content) fun _ _ =>
    Value.put?_wellFormed value.wellFormed item.wellFormed

/-- Unbind a property of an object; the result holds what the key was bound to. -/
def take? (value : OrderedValue) (key : PropertyKey) : Option (Option Value × OrderedValue) :=
  keep (value.content.take? key) fun _ _ => Value.take?_wellFormed value.wellFormed

/-- Append an element to an array. -/
def push? (value item : OrderedValue) : Option OrderedValue :=
  (value.content.push? item.content).pmap mk fun _ =>
    Value.push?_wellFormed value.wellFormed item.wellFormed

/-- Drop the last element of an array, if it has one; the result holds that element. -/
def pop? (value : OrderedValue) : Option (Option Value × OrderedValue) :=
  keep value.content.pop? fun _ _ => Value.pop?_wellFormed value.wellFormed

/-! ### Edits are those of the contents -/

section Edits

variable {value item revised : OrderedValue} {key : PropertyKey} {previous : Option Value}

theorem eq_some_of_keep {edit : Option (Option Value × Value)}
    {h : ∀ previous revised, edit = some (previous, revised) → revised.WellFormed}
    (hkeep : keep edit h = some (previous, revised)) :
    edit = some (previous, revised.content) := by
  rcases Option.pmap_eq_some_iff.mp hkeep with ⟨result, _, rfl, hresult⟩
  cases hresult
  rfl

theorem content_put? (h : value.put? key item = some (previous, revised)) :
    value.content.put? key item.content = some (previous, revised.content) :=
  eq_some_of_keep h

theorem content_take? (h : value.take? key = some (previous, revised)) :
    value.content.take? key = some (previous, revised.content) :=
  eq_some_of_keep h

theorem content_push? (h : value.push? item = some revised) :
    value.content.push? item.content = some revised.content := by
  rcases Option.pmap_eq_some_iff.mp h with ⟨result, _, hresult, rfl⟩
  exact hresult

theorem content_pop? (h : value.pop? = some (previous, revised)) :
    value.content.pop? = some (previous, revised.content) :=
  eq_some_of_keep h

end Edits

end OrderedValue

/-! ## Calling -/

/-- Apply a function to arguments. -/
def Function.call (function : Function) (arguments : List Value) : Value :=
  match function.body with
  | .undefined => .undefined
  | .null => .null
  | .first => arguments.head?.getD .undefined
  | .count => .ofInt arguments.length
  | .array => .array arguments
  | .double =>
    match arguments with
    | .number x :: _ => .number x.twice
    | _ => .undefined

end DuckTyping
