import DuckTyping.Conversion.Error

/-!
# Failures of scanning

A scanner takes characters from the front of a text and gives what they denote together with the
characters that are left.  Where it fails it keeps the characters that were left, so that the
position of the fault can be worked out from the whole text.

Main definitions:

- `Scan.Cause`: what is wrong with a text, with `Scan.Cause.message` and `Scan.Cause.category`.
- `Scan.Failure`: a cause with the place where scanning stopped.
- `Scanner`: a function that takes characters from the front of a text.
- `Scan.Position`: line and column of a byte of a text.
- `Scan.Fault`: a cause with its position, with `Scan.Fault.message`.
-/

namespace DuckTyping
namespace Scan

/-! ## Causes -/

/-- What is wrong with a text. -/
inductive Cause where
  /-- The text ends where a value should start or go on. -/
  | endInValue
  /-- The text ends inside a string. -/
  | endInString
  /-- The text ends inside an array. -/
  | endInArray
  /-- The text ends inside an object. -/
  | endInObject
  | expectedColon
  | expectedCommaOrBracket
  | expectedCommaOrBrace
  | expectedValue
  /-- A word such as `null` is misspelt. -/
  | expectedWord
  /-- The name of a member is not a string. -/
  | nameNotString
  | trailingComma
  /-- Something follows the value that the text holds. -/
  | trailingCharacters
  | invalidNumber
  /-- A number is beyond the greatest finite double. -/
  | numberOutOfRange
  | invalidEscape
  /-- An escaped surrogate has no partner. -/
  | loneSurrogate
  /-- The first half of a surrogate pair is not followed by an escape. -/
  | missingSurrogate
  /-- A control character stands in a string. -/
  | controlCharacter
  /-- Arrays and objects are nested too deeply. -/
  | tooDeep
  /-- The text is well written, but it does not hold the data that were asked for. -/
  | unsuitable (error : ConversionError)
deriving DecidableEq, Repr

/-- The classes of causes. -/
inductive Category where
  /-- The text is incomplete. -/
  | eof
  /-- The text does not follow the grammar. -/
  | malformed
  /-- The text holds other data than were asked for. -/
  | data
deriving DecidableEq, Repr

namespace Cause

/-- The message of a cause. -/
def message : Cause → String
  | endInValue => "EOF while parsing a value"
  | endInString => "EOF while parsing a string"
  | endInArray => "EOF while parsing a list"
  | endInObject => "EOF while parsing an object"
  | expectedColon => "expected `:`"
  | expectedCommaOrBracket => "expected `,` or `]`"
  | expectedCommaOrBrace => "expected `,` or `\x7d`"
  | expectedValue => "expected value"
  | expectedWord => "expected ident"
  | nameNotString => "key must be a string"
  | trailingComma => "trailing comma"
  | trailingCharacters => "trailing characters"
  | invalidNumber => "invalid number"
  | numberOutOfRange => "number out of range"
  | invalidEscape => "invalid escape"
  | loneSurrogate => "lone leading surrogate in hex escape"
  | missingSurrogate => "unexpected end of hex escape"
  | controlCharacter =>
    "control character (\\u0000-\\u001F) found while parsing a string"
  | tooDeep => "recursion limit exceeded"
  | unsuitable error => error.message

/-- The class of a cause. -/
def category : Cause → Category
  | endInValue | endInString | endInArray | endInObject => .eof
  | unsuitable _ => .data
  | _ => .malformed

end Cause

/-! ## Scanners -/

/-- A cause and the place where scanning stopped. -/
structure Failure where
  cause : Cause
  /-- The characters that were left. -/
  rest : List Char
  /-- How many bytes of them belong before the position of the fault. -/
  ahead : Nat
deriving DecidableEq, Repr

end Scan

/-- A function that takes characters from the front of a text. -/
abbrev Scanner (α : Type) : Type :=
  List Char → Except Scan.Failure (α × List Char)

namespace Scan

/-- Fail at the end of what has been taken. -/
def failHere {α : Type} (cause : Cause) (rest : List Char) : Except Failure α :=
  .error ⟨cause, rest, 0⟩

/-- Fail just after the byte that comes next, or at the end of the text if none is left. -/
def failNext {α : Type} (cause : Cause) (rest : List Char) : Except Failure α :=
  .error ⟨cause, rest, 1⟩

/-! ## Positions -/

/-- The place of a byte in a text. -/
structure Position where
  /-- One more than the number of line feeds before the byte. -/
  line : Nat
  /-- The number of bytes between the start of the line and the byte. -/
  column : Nat
deriving DecidableEq, Repr

namespace Position

/-- The position of the first byte of a text. -/
def start : Position :=
  ⟨1, 0⟩

/-- The position after a character. -/
def after (position : Position) (c : Char) : Position :=
  if c = '\n' then ⟨position.line + 1, 0⟩ else ⟨position.line, position.column + c.utf8Size⟩

/-- The position after a number of bytes of a text, or at its end if it has fewer. -/
def advance (position : Position) : Nat → List Char → Position
  | _, [] => position
  | bytes, c :: text =>
    if c.utf8Size ≤ bytes then (position.after c).advance (bytes - c.utf8Size) text
    else ⟨position.line, position.column + bytes⟩

end Position

/-- The number of bytes that characters take. -/
def byteLength (text : List Char) : Nat :=
  text.foldr (fun c bytes => c.utf8Size + bytes) 0

/-- The position of a failure in the whole text. -/
def Failure.position (failure : Failure) (text : List Char) : Position :=
  Position.start.advance (byteLength text - byteLength failure.rest + failure.ahead) text

/-! ## Faults -/

/-- A cause and its position in a text. -/
structure Fault where
  cause : Cause
  position : Position
deriving DecidableEq, Repr

namespace Fault

/-- The message of a fault ends with its position. -/
def message (fault : Fault) : String :=
  fault.cause.message ++ " at line " ++ Nat.repr fault.position.line ++
    " column " ++ Nat.repr fault.position.column

/-- The class of a fault. -/
def category (fault : Fault) : Category :=
  fault.cause.category

end Fault

end Scan
end DuckTyping
