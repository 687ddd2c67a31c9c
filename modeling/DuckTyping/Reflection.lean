import DuckTyping.Kind
import DuckTyping.Value.OfDocument

/-!
# Reflection

The guards ask three questions of a value: what it is, what the property under a key is, and which
elements it has.  A type of values that answers them can be guarded.

Main definitions:

- `Reflection`: the three questions.
- `Reflection.sequencePropertyTag`: the properties that every kind of array has.
- instances for `Document` and `Value`.
-/

namespace DuckTyping

/-- What the guards ask of a value. -/
class Reflection (α : Type) where
  /-- What the value is. -/
  typeTag : α → TypeTag
  /-- What the property under a key is; undefined if nothing is bound there. -/
  propertyTag : α → PropertyKey → TypeTag
  /-- The elements of the value, if it is a sequence. -/
  elements : α → Option (List α)

namespace Reflection

variable {α : Type}

/-- Whether a value stands for the absence of a value. -/
def isNullish [Reflection α] (value : α) : Bool :=
  (typeTag value).isNullish

/-- The name under which an array has its number of elements. -/
def lengthName : String :=
  "length"

/-- What the property of an array under a key is: a number under `length`, an element under the
numeral of its position, and undefined under every other key. -/
def sequencePropertyTag (tagOf : α → TypeTag) (elements : List α) (key : PropertyKey) : TypeTag :=
  if key = .name lengthName then .number
  else
    match key.arrayIndex?.bind fun index => elements[index]? with
    | some element => tagOf element
    | none => .undefined

end Reflection

/-! ## Documents -/

namespace Document

/-- What a document is. -/
def typeTag : Document → TypeTag
  | null => .null
  | bool _ => .boolean
  | number _ => .number
  | string _ => .string
  | array _ | object _ => .object

/-- What the property of a document under a key is.  Symbols are never bound in a document. -/
def propertyTag (document : Document) (key : PropertyKey) : TypeTag :=
  match document with
  | object members =>
    match key.asName?.bind fun name => Entries.find? name members with
    | some member => member.typeTag
    | none => .undefined
  | array elements => Reflection.sequencePropertyTag typeTag elements key
  | _ => .undefined

/-- The elements of a document that is an array. -/
def elements? : Document → Option (List Document)
  | array elements => some elements
  | _ => none

instance : Reflection Document where
  typeTag := typeTag
  propertyTag := propertyTag
  elements := elements?

end Document

/-! ## Values -/

namespace Value

/-- What a value is. -/
def typeTag : Value → TypeTag
  | undefined => .undefined
  | null => .null
  | bool _ => .boolean
  | number _ => .number
  | bigint _ => .bigint
  | string _ => .string
  | symbol _ => .symbol
  | function _ => .function
  | array _ | object _ => .object

/-- What the property of a value under a key is. -/
def propertyTag (value : Value) (key : PropertyKey) : TypeTag :=
  match value with
  | object properties =>
    match Entries.find? key properties with
    | some property => property.typeTag
    | none => .undefined
  | array elements => Reflection.sequencePropertyTag typeTag elements key
  | _ => .undefined

/-- The elements of a value that is an array. -/
def elements? : Value → Option (List Value)
  | array elements => some elements
  | _ => none

instance : Reflection Value where
  typeTag := typeTag
  propertyTag := propertyTag
  elements := elements?

end Value

end DuckTyping
