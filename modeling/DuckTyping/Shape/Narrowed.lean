import DuckTyping.Shape.Catalogue

/-!
# Narrowing by name

Where the type to narrow to is only known by name, the result is one of a closed list of types.

Main definitions:

- `ShapeName`: the shapes of the catalogue.
- `TargetName`: what a document can be read as; beside the shapes a contract and any document.
- `Narrowed`: a value of one of these types, or a list of such values.
- `TargetName.narrow`, `ShapeName.ensure`, `ShapeName.recognise`: narrowing to a named type.
-/

namespace DuckTyping

variable {α β : Type}

/-- The shapes of the catalogue. -/
inductive ShapeName where
  | package
  | labelled
  | point
  | row
  | contract
deriving DecidableEq, Repr

/-- What a document can be read as. -/
inductive TargetName where
  | shape (name : ShapeName)
  /-- A contract. -/
  | expectations
  /-- Any document, as it is. -/
  | document
deriving DecidableEq, Repr

/-- What a document was narrowed to. -/
inductive Narrowed where
  | package (value : Package)
  | labelled (value : Labelled)
  | point (value : Point)
  | row (value : Row)
  | contract (value : Contract)
  | expectations (value : Expectations)
  | document (value : Document)
  | list (values : List Narrowed)

namespace ShapeName

/-- What can be done with every shape, done with the shape of a name. -/
def apply (name : ShapeName) (use : {α : Type} → Shape α → (α → Narrowed) → β) : β :=
  match name with
  | package => use Package.shape .package
  | labelled => use Labelled.shape .labelled
  | point => use Point.shape .point
  | row => use Row.shape .row
  | contract => use Contract.shape .contract

/-- The contract of a shape. -/
def expectations (name : ShapeName) : Expectations :=
  name.apply fun shape _ => shape.expectations

/-- Narrow a document to a shape, or tell why not. -/
def ensure (name : ShapeName) (document : Document) : Traced (Except GuardError Narrowed) :=
  name.apply fun shape wrap =>
    let ensured := DuckTyping.ensure shape document
    ⟨ensured.result.map wrap, ensured.events⟩

/-- Narrow an array of documents to a shape, or tell why not. -/
def ensureArray (name : ShapeName) (document : Document) :
    Traced (Except GuardError Narrowed) :=
  name.apply fun shape wrap =>
    let ensured := DuckTyping.ensureArray shape document
    ⟨ensured.result.map fun values => .list (values.map wrap), ensured.events⟩

/-- Whether a value has a shape, and whether it is a sequence of values that have it. -/
def recognise [Reflection β] (name : ShapeName) (value : β) : Traced (Bool × Bool) :=
  let one := name.apply fun shape _ => shape.recognises value
  let many := name.apply fun shape _ => shape.recognisesArray value
  ⟨(one.result, many.result), one.events ++ many.events⟩

end ShapeName

namespace TargetName

/-- The reader of a target. -/
def read (name : TargetName) : Reader Narrowed := fun source =>
  match name with
  | shape name => name.apply fun shape wrap => (shape.read source).map wrap
  | expectations => (Reader.expectations source).map .expectations
  | document => (Reader.document source).map .document

/-- Read a document that passes the check against a contract. -/
def narrow (name : TargetName) (source : Document) (expected : Expectations) :
    Traced (Option Narrowed) :=
  DuckTyping.narrow name.read source expected

/-- Read an array of documents that pass the check against a contract. -/
def narrowArray (name : TargetName) (source : Document) (expected : Expectations) :
    Traced (Option Narrowed) :=
  let narrowed := DuckTyping.narrowArray name.read source expected
  ⟨narrowed.result.map .list, narrowed.events⟩

end TargetName

end DuckTyping
