import DuckTyping.Event
import DuckTyping.Expectations
import DuckTyping.Reflection

/-!
# Guards

The guards tell whether a value is an object, whether it carries the properties that a contract
lists, and whether it is a sequence of values that do.  Each of them has an answer for every value.

Main definitions:

- `Guard.isObject`: whether a value is an object.
- `Guard.firstMismatch?`: the first listed property that is not as expected.
- `Guard.check`: whether a value is an object with all listed properties.
- `Guard.firstFailure`: the first element of a sequence that is no such object.
- `Guard.checkArray`: whether a value is a sequence of such objects.
-/

namespace DuckTyping
namespace Guard

variable {α : Type} [Reflection α]

/-! ## Objects -/

/-- Whether a value is an object, which null, undefined, functions and all other single values are
not. -/
def isObject (value : α) : Bool :=
  !Reflection.isNullish value && Reflection.typeTag value == .object

/-! ## Properties -/

/-- What is wrong with the property that one entry of a contract lists, if anything is. -/
def mismatch? (value : α) (entry : PropertyKey × Kind) : Option Mismatch :=
  let found := Reflection.propertyTag value entry.1
  if !found.isNullish && entry.2.satisfiedBy found then none
  else some ⟨entry.1, entry.2, found⟩

/-- The first listed property, in key order, that is missing or of another kind. -/
def firstMismatch? (value : α) (expected : Expectations) : Option Mismatch :=
  expected.entries.findSome? (mismatch? value)

/-- Whether a value is an object each of whose listed properties is of the kind that is expected
of it.  The first property that is not is told by an event; what is not an object fails without
one. -/
def check (value : α) (expected : Expectations) : Traced Bool :=
  if isObject value then
    match firstMismatch? value expected with
    | none => .silent true
    | some mismatch => ⟨false, [.propertyMismatch mismatch]⟩
  else .silent false

/-! ## Sequences -/

/-- The position of the first element that fails the check, counted from a given position, if one
does.  Every element up to that one is checked, and the events of all these checks are told. -/
def firstFailure (expected : Expectations) : Nat → List α → Traced (Option Nat)
  | _, [] => .silent none
  | index, element :: rest =>
    let checked := check element expected
    if checked.result then (firstFailure expected (index + 1) rest).after checked.events
    else ⟨some index, checked.events⟩

/-- Whether a value is a sequence all of whose elements pass the check.  What the checks of the
elements tell is followed by one event for the first element that does not pass, which names its
position; what is not a sequence fails without events. -/
def checkArray (value : α) (expected : Expectations) : Traced Bool :=
  match Reflection.elements value with
  | none => .silent false
  | some elements =>
    let search := firstFailure expected 0 elements
    match search.result with
    | none => ⟨true, search.events⟩
    | some index => ⟨false, search.events ++ [.elementMismatch index elements.length]⟩

end Guard
end DuckTyping
