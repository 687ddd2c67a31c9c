import DuckTyping.Kind
import DuckTyping.PropertyKey

/-!
# Events

A check answers yes or no; why it says no is told by events, in the order in which the faults come
to light.

Main definitions:

- `Mismatch`: a property that is not of the kind that is expected of it.
- `Event`: what can come to light, with its level, target, message and fields.
- `Traced`: a result together with the events on the way to it.
-/

namespace DuckTyping

/-! ## Events -/

/-- A property that is not of the kind that is expected of it. -/
structure Mismatch where
  key : PropertyKey
  expected : Kind
  found : TypeTag
deriving DecidableEq, Repr

/-- What can come to light during a check. -/
inductive Event where
  /-- A listed property is missing or of another kind. -/
  | propertyMismatch (mismatch : Mismatch)
  /-- An element of a sequence of a given length does not pass. -/
  | elementMismatch (index length : Nat)
  /-- A value does not have a shape. -/
  | valueRejected (shape : String)
  /-- A value is not an array of values of a shape. -/
  | arrayRejected (shape : String)
deriving DecidableEq, Repr

/-- How closely an event is to be looked for. -/
inductive Level where
  | trace
  | debug
deriving DecidableEq, Repr

namespace Level

/-- The name of a level. -/
def display : Level → String
  | trace => "TRACE"
  | debug => "DEBUG"

end Level

/-- A detail of an event. -/
inductive Detail where
  | text (value : String)
  | count (value : Nat)
deriving DecidableEq, Repr

namespace Event

/-- The level of an event. -/
def level : Event → Level
  | propertyMismatch _ | elementMismatch .. => .trace
  | valueRejected _ | arrayRejected _ => .debug

/-- The part of the library that an event comes from. -/
def target : Event → String
  | propertyMismatch _ | elementMismatch .. => "duckguard::guards"
  | valueRejected _ | arrayRejected _ => "duckguard::narrow"

/-- The message of an event. -/
def message : Event → String
  | propertyMismatch _ => "duck type property mismatch"
  | elementMismatch .. => "duck type array element mismatch"
  | valueRejected _ => "value rejected by duck check"
  | arrayRejected _ => "array rejected by duck check"

/-- The named details of an event. -/
def details : Event → List (String × Detail)
  | propertyMismatch mismatch =>
    [("key", .text mismatch.key.display), ("expected", .text mismatch.expected.name),
      ("found", .text mismatch.found.display)]
  | elementMismatch index length => [("index", .count index), ("len", .count length)]
  | valueRejected shape | arrayRejected shape => [("shape", .text shape)]

end Event

/-! ## Traced results -/

/-- A result together with the events on the way to it. -/
structure Traced (α : Type) where
  result : α
  events : List Event
deriving DecidableEq, Repr

namespace Traced

/-- A result without events. -/
def silent {α : Type} (result : α) : Traced α :=
  ⟨result, []⟩

/-- The same result, with the events of what went before. -/
def after {α : Type} (traced : Traced α) (earlier : List Event) : Traced α :=
  ⟨traced.result, earlier ++ traced.events⟩

end Traced

end DuckTyping
