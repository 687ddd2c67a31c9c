import DuckTyping.Double.Shortest
import DuckTyping.Text.Quoted

/-!
# Conversion errors

Reading typed data can fail in five common ways, in which the error names what was found or missing
and what would have been right, and in whatever way a type tells in words of its own.  The position
of the fault in a text is not part of an error.

Main definitions:

- `Found`: a summary of the datum that was found.
- `ConversionError`: the causes of failure, with `ConversionError.message`.
-/

namespace DuckTyping

/-! ## What was found -/

/-- The datum that a reader found, as far as a message shows it. -/
inductive Found where
  | null
  | boolean (value : Bool)
  | integer (value : Int)
  | floating (value : Double)
  | string (text : String)
  | sequence
  | map
deriving DecidableEq, Repr

namespace Found

/-- How a datum is shown in a message. -/
def display : Found → String
  | null => "null"
  | boolean value => "boolean `" ++ (if value then "true" else "false") ++ "`"
  | integer value => "integer `" ++ toString value ++ "`"
  | floating value => "floating point `" ++ value.display ++ "`"
  | string text => "string " ++ Text.quote text
  | sequence => "sequence"
  | map => "map"

end Found

/-! ## Errors -/

/-- Why typed data could not be read. -/
inductive ConversionError where
  /-- The datum is of another type. -/
  | invalidType (found : Found) (expected : String)
  /-- The datum is of the right type, but its value is not acceptable. -/
  | invalidValue (found : Found) (expected : String)
  /-- A sequence has the wrong number of elements. -/
  | invalidLength (length : Nat) (expected : String)
  /-- A record lacks a field. -/
  | missingField (field : String)
  /-- A name is not one of a closed list of names. -/
  | unknownVariant (name : String) (known : List String)
  /-- A type refuses the datum for a reason of its own. -/
  | custom (reason : String)
deriving DecidableEq, Repr

namespace ConversionError

/-- The message of an error. -/
def message : ConversionError → String
  | invalidType found expected =>
    "invalid type: " ++ found.display ++ ", expected " ++ expected
  | invalidValue found expected =>
    "invalid value: " ++ found.display ++ ", expected " ++ expected
  | invalidLength length expected =>
    "invalid length " ++ Nat.repr length ++ ", expected " ++ expected
  | missingField field => "missing field `" ++ field ++ "`"
  | unknownVariant name known =>
    "unknown variant `" ++ name ++ "`, expected one of " ++
      ", ".intercalate (known.map fun text => "`" ++ text ++ "`")
  | custom reason => reason

end ConversionError

end DuckTyping
