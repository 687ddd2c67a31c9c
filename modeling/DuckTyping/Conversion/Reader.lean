import DuckTyping.Conversion.Error
import DuckTyping.Document
import DuckTyping.Kind

/-!
# Readers

A reader turns a document into typed data.  Each reader accepts the documents of one form and says
of every other document what it found in its place.

Main definitions:

- `Document.found`: what a message says of a document.
- `Reader`: a function from documents to data or an error.
- `Reader.string`, `Reader.integer`, `Reader.double`, `Reader.optional`, `Reader.array`: plain data.
- `Reader.kind`: a kind, given by its name or as the only name of an object.
-/

namespace DuckTyping

/-- What a message says of a number. -/
def Number.found : Number → Found
  | integer value _ => .integer value
  | double value _ => .floating value

/-- What a message says of a document. -/
def Document.found : Document → Found
  | null => .null
  | bool value => .boolean value
  | number value => value.found
  | string text => .string text
  | array _ => .sequence
  | object _ => .map

/-- A function from documents to data or an error. -/
abbrev Reader (α : Type) : Type :=
  Document → Except ConversionError α

namespace Reader

variable {α : Type}

/-! ## Plain data -/

/-- Refuse a document of the wrong type. -/
def refuse (document : Document) (expected : String) : Except ConversionError α :=
  .error (.invalidType document.found expected)

/-- Any document, as it is. -/
def document : Reader Document := fun document =>
  .ok document

/-- A string. -/
def string : Reader String
  | .string text => .ok text
  | other => refuse other "a string"

/-- An integer within bounds; a double is no integer, whatever its value. -/
def integer (least greatest : Int) (typeName : String) : Reader Int
  | .number (.integer value _) =>
    if least ≤ value ∧ value ≤ greatest then .ok value
    else .error (.invalidValue (.integer value) typeName)
  | other => refuse other typeName

/-- An unsigned integer of 64 bits. -/
def unsigned64 : Reader UInt64 := fun document =>
  (integer 0 0xFFFFFFFFFFFFFFFF "u64" document).map fun value => UInt64.ofNat value.toNat

/-- An unsigned integer of 32 bits. -/
def unsigned32 : Reader UInt32 := fun document =>
  (integer 0 0xFFFFFFFF "u32" document).map fun value => UInt32.ofNat value.toNat

/-- A signed integer of 8 bits. -/
def signed8 : Reader Int8 := fun document =>
  (integer (-0x80) 0x7F "i8" document).map Int8.ofInt

/-- Any number, as the nearest double. -/
def double : Reader Double
  | .number value => .ok value.toDouble
  | other => refuse other "f64"

/-- Null, or what another reader accepts. -/
def optional (read : Reader α) : Reader (Option α)
  | .null => .ok none
  | other => (read other).map some

/-- Null alone. -/
def unit : Reader Unit
  | .null => .ok ()
  | other => refuse other "unit"

/-- What a reader makes of each of a list of documents; the first error wins. -/
def each (read : Reader α) : List Document → Except ConversionError (List α)
  | [] => .ok []
  | document :: rest => do
    let first ← read document
    let others ← each read rest
    .ok (first :: others)

/-- An array of what another reader accepts. -/
def array (read : Reader α) : Reader (List α)
  | .array elements => each read elements
  | other => refuse other "a sequence"

/-- What a reader makes of each of a list of members; the first error wins. -/
def eachMember (read : Reader α) :
    List (String × Document) → Except ConversionError (List (String × α))
  | [] => .ok []
  | (name, document) :: rest => do
    let first ← read document
    let others ← eachMember read rest
    .ok ((name, first) :: others)

/-! ## Kinds -/

/-- The kind of a given name, looked up in the list of all kinds; every other name is refused with
the names of these. -/
def kindNamed (name : String) : Except ConversionError Kind :=
  match Kind.all.find? fun kind => kind.name = name with
  | some kind => .ok kind
  | none => .error (.unknownVariant name (Kind.all.map Kind.name))

/-- A kind: its name, or an object whose only member has its name and holds null. -/
def kind : Reader Kind
  | .string name => kindNamed name
  | .object [(name, content)] => do
    let kind ← kindNamed name
    let _ ← unit content
    .ok kind
  | .object _ => .error (.invalidValue .map "map with a single key")
  | other => refuse other "string or map"

end Reader
end DuckTyping
