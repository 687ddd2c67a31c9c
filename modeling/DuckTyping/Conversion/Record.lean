import DuckTyping.Conversion.Reader

/-!
# Records

A record is read from an object by the names of its fields, or from an array by their places.  The
fields that have been read so far are kept in a draft, which becomes the record at the end.

From an object, members are visited in order, members that are no field are passed over, and a field
that never came is missed in the order of declaration.  From an array, every field has to come, and
nothing may follow the last.

Main definitions:

- `Record.Field`: a field by name, with what it adds to the draft.
- `Record`: how a record is read; `Record.read` is the reader.
-/

namespace DuckTyping

/-- A field of a record, with what its document adds to the draft of the record. -/
structure Record.Field (δ : Type) where
  name : String
  /-- The draft with this field filled in. -/
  fill : δ → Document → Except ConversionError δ

/-- How a record is read. -/
structure Record (δ α : Type) where
  /-- The name of the record in messages. -/
  name : String
  /-- The fields in the order of declaration. -/
  fields : List (Record.Field δ)
  /-- The draft without any field. -/
  blank : δ
  /-- The record of a draft, or an error where a field is missing. -/
  complete : δ → Except ConversionError α

namespace Record

variable {δ α β : Type}

/-- A field whose document is read by a given reader. -/
def Field.of (name : String) (read : Reader β) (set : δ → β → δ) : Field δ where
  name := name
  fill draft document := (read document).map (set draft)

/-- The content of a field that must not be missing. -/
def require (name : String) : Option β → Except ConversionError β
  | some content => .ok content
  | none => .error (.missingField name)

/-- Fill in the fields that an object names. -/
def fillByName (record : Record δ α) (draft : δ) :
    List (String × Document) → Except ConversionError δ
  | [] => .ok draft
  | (name, document) :: rest =>
    match record.fields.find? fun field => field.name == name with
    | none => record.fillByName draft rest
    | some field => do
      let draft ← field.fill draft document
      record.fillByName draft rest

/-- How many fields a message says that a record has. -/
def sizeText (record : Record δ α) : String :=
  let count := record.fields.length
  "struct " ++ record.name ++ " with " ++ Nat.repr count ++
    if count = 1 then " element" else " elements"

/-- Fill in fields by the elements of an array; the result holds the elements that are left. -/
def fillInOrder (record : Record δ α) :
    Nat → List (Field δ) → δ → List Document → Except ConversionError (δ × List Document)
  | _, [], draft, rest => .ok (draft, rest)
  | place, _ :: _, _, [] => .error (.invalidLength place record.sizeText)
  | place, field :: fields, draft, document :: rest => do
    let draft ← field.fill draft document
    record.fillInOrder (place + 1) fields draft rest

/-- Read a record from an object or an array. -/
def read (record : Record δ α) : Reader α
  | .object members => do
    let draft ← record.fillByName record.blank members
    record.complete draft
  | .array elements => do
    let (draft, rest) ← record.fillInOrder 0 record.fields record.blank elements
    if rest = [] then record.complete draft
    else .error (.invalidLength elements.length "fewer elements in array")
  | other => Reader.refuse other ("struct " ++ record.name)

end Record
end DuckTyping
