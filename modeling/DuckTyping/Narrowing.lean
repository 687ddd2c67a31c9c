import DuckTyping.Conversion.Reader
import DuckTyping.Guard

/-!
# Narrowing

A document is narrowed to a type in two steps: it has to pass a check, and only then it is read.

Main definitions:

- `Shape`: a type with the contract that its values have to pass and its reader.
- `narrow`, `narrowArray`: check against a contract and read; every failure is `none`.
- `ensure`, `ensureArray`: check against the contract of a shape and read, or tell why not.
- `GuardError`: why a document was not narrowed.
-/

namespace DuckTyping

variable {α β : Type}

/-! ## Shapes -/

/-- A type whose values can be recognised by the properties that they carry. -/
structure Shape (α : Type) where
  /-- The full name of the type. -/
  name : String
  /-- The properties that a value must carry. -/
  expectations : Expectations
  /-- How a document becomes a value of the type. -/
  read : Reader α

namespace Shape

/-- The full name of the type of arrays of a shape. -/
def arrayName (shape : Shape α) : String :=
  "alloc::vec::Vec<" ++ shape.name ++ ">"

/-- Whether a value carries the properties of a shape. -/
def recognises [Reflection β] (shape : Shape α) (value : β) : Traced Bool :=
  Guard.check value shape.expectations

/-- Whether a value is a sequence of values that carry the properties of a shape. -/
def recognisesArray [Reflection β] (shape : Shape α) (value : β) : Traced Bool :=
  Guard.checkArray value shape.expectations

end Shape

/-! ## Narrowing against a contract -/

/-- Read a document that passes the check against a contract. -/
def narrow (read : Reader α) (document : Document) (expected : Expectations) : Traced (Option α) :=
  let checked := Guard.check document expected
  ⟨if checked.result then (read document).toOption else none, checked.events⟩

/-- Read an array of documents that pass the check against a contract. -/
def narrowArray (read : Reader α) (document : Document) (expected : Expectations) :
    Traced (Option (List α)) :=
  let checked := Guard.checkArray document expected
  ⟨if checked.result then (Reader.array read document).toOption else none, checked.events⟩

/-! ## Narrowing to a shape -/

/-- Why a document was not narrowed to a shape. -/
inductive GuardError where
  /-- The document does not pass the check; only the shape is told. -/
  | shapeMismatch (shape : String)
  /-- The document passes the check but cannot be read. -/
  | conversion (error : ConversionError)
deriving DecidableEq, Repr

namespace GuardError

/-- The message of an error. -/
def message : GuardError → String
  | shapeMismatch shape => "value does not conform to " ++ shape
  | conversion error => error.message

/-- The stable code of an error. -/
def code : GuardError → String
  | shapeMismatch _ => "duckguard::narrow::mismatch"
  | conversion _ => "duckguard::narrow::deserialize"

end GuardError

/-- Read a document that carries the properties of a shape, or tell why not.  A failed check is told
by one more event after its own. -/
def ensure (shape : Shape α) (document : Document) : Traced (Except GuardError α) :=
  let checked := shape.recognises document
  if checked.result then
    ⟨(shape.read document).mapError .conversion, checked.events⟩
  else
    ⟨.error (.shapeMismatch shape.name), checked.events ++ [.valueRejected shape.name]⟩

/-- Read an array of documents that carry the properties of a shape, or tell why not.  A failed
check is told by one more event after its own. -/
def ensureArray (shape : Shape α) (document : Document) : Traced (Except GuardError (List α)) :=
  let checked := shape.recognisesArray document
  if checked.result then
    ⟨(Reader.array shape.read document).mapError .conversion, checked.events⟩
  else
    ⟨.error (.shapeMismatch shape.arrayName), checked.events ++ [.arrayRejected shape.name]⟩

end DuckTyping
