import DuckTyping.Conversion.Reader
import DuckTyping.Document.Text
import DuckTyping.Expectations

/-!
# Loading kinds and contracts

A contract can be kept as an object that gives the kind expected under each name.  It is loaded from
a document or directly from a text; the text has to be that of one object and is checked as it is
scanned, so that its first fault is reported at its position.

Main definitions:

- `Expectations.ofNamed`: the contract that a list of names and kinds leaves.
- `Reader.expectations`: a contract from a document.
- `Scan.kind`, `Scan.namedKinds`: a kind and the members of a contract from the front of a text.
- `Kind.parse`, `Expectations.parse`: a kind and a contract from a whole text.
- `LoadError`: why loading failed.
-/

namespace DuckTyping

/-! ## From documents -/

/-- The contract that a list of names and kinds leaves; the last kind of a name wins. -/
def Expectations.ofNamed (entries : List (String × Kind)) : Expectations :=
  OrderedMap.ofList (entries.map fun entry => (.name entry.1, entry.2))

/-- A contract: an object each of whose members holds a kind. -/
def Reader.expectations : Reader Expectations
  | .object members => (eachMember kind members).map Expectations.ofNamed
  | other => refuse other "a map"

/-! ## From texts -/

namespace Scan

variable {α : Type}

/-- Refuse what stands at the front of a text because something else was expected.  Single values
are taken first, so that a fault inside of them is reported before; arrays and objects are not. -/
def refuse (expected : String) (text : List Char) : Except Failure α :=
  let unsuitable (found : Found) (rest : List Char) : Except Failure α :=
    failHere (.unsuitable (.invalidType found expected)) rest
  match text with
  | [] => failNext .expectedValue []
  | c :: rest =>
    if c = 'n' then do
      let (_, rest) ← word ['u', 'l', 'l'] rest
      unsuitable .null rest
    else if c = 't' then do
      let (_, rest) ← word ['r', 'u', 'e'] rest
      unsuitable (.boolean true) rest
    else if c = 'f' then do
      let (_, rest) ← word ['a', 'l', 's', 'e'] rest
      unsuitable (.boolean false) rest
    else if c = '-' then do
      let (value, rest) ← number true rest
      unsuitable value.found rest
    else if c.isDigit then do
      let (value, rest) ← number false (c :: rest)
      unsuitable value.found rest
    else if c = '"' then do
      let (text, rest) ← string rest
      unsuitable (.string text) rest
    else if c = '[' then unsuitable .sequence (c :: rest)
    else if c = '{' then unsuitable .map (c :: rest)
    else failNext .expectedValue (c :: rest)

/-- Take the name of a kind, after its opening quote. -/
def kindName : Scanner Kind := fun text => do
  let (name, rest) ← string text
  match Reader.kindNamed name with
  | .ok kind => .ok (kind, rest)
  | .error error => failHere (.unsuitable error) rest

/-- Take a null. -/
def unit : Scanner Unit := fun text =>
  match skipBlank text with
  | [] => failNext .endInValue []
  | c :: rest => if c = 'n' then word ['u', 'l', 'l'] rest else refuse "unit" (c :: rest)

/-- Take the closing brace of an object that must not have another member. -/
def closingBrace : Scanner Unit := fun text =>
  match skipBlank text with
  | [] => failHere .endInObject []
  | c :: rest => if c = '}' then .ok ((), rest) else failHere .expectedValue (c :: rest)

/-- Take a kind that is the only name of an object, after its opening brace. -/
def taggedKind : Scanner Kind := fun text =>
  match skipBlank text with
  | [] => failNext .endInObject []
  | c :: rest =>
    if c = '"' then do
      let (kind, rest) ← kindName rest
      let (_, rest) ← colon rest
      let (_, rest) ← unit rest
      let (_, rest) ← closingBrace rest
      .ok (kind, rest)
    else failNext (if c = '}' then .expectedValue else .nameNotString) (c :: rest)

/-- Take a kind. -/
def kind : Scanner Kind := fun text =>
  match skipBlank text with
  | [] => failNext .endInValue []
  | c :: rest =>
    if c = '"' then kindName rest
    else if c = '{' then taggedKind rest
    else failNext .expectedValue (c :: rest)

/-- Take the object that gives the kinds of a contract. -/
def namedKinds : Scanner (List (String × Kind)) := fun text =>
  match skipBlank text with
  | [] => failNext .endInValue []
  | c :: rest => if c = '{' then members kind rest else refuse "a map" (c :: rest)

end Scan

/-- The kind that a whole text holds. -/
def Kind.parse (text : String) : Except Scan.Fault Kind :=
  Scan.whole Scan.kind text

/-- The contract that a whole text holds. -/
def Expectations.parse (text : String) : Except Scan.Fault Expectations :=
  (Scan.whole Scan.namedKinds text).map Expectations.ofNamed

/-! ## Errors -/

/-- Why a kind or a contract could not be loaded. -/
inductive LoadError where
  /-- A fault at a position of a text. -/
  | text (fault : Scan.Fault)
  /-- A document of another form. -/
  | document (error : ConversionError)
deriving DecidableEq, Repr

namespace LoadError

/-- The class of an error. -/
def category : LoadError → Scan.Category
  | text fault => fault.category
  | document _ => .data

/-- What is wrong. -/
def detail : LoadError → String
  | text fault => fault.message
  | document error => error.message

/-- The message of an error in a contract. -/
def message (error : LoadError) : String :=
  "invalid expectation mapping: " ++ error.detail

/-- The stable code of an error in a contract. -/
def code : String :=
  "duckguard::expect::json"

/-- Advice on how to mend a contract. -/
def help : String :=
  "A mapping is a JSON object whose values are kind tags such as \"number\"."

end LoadError

end DuckTyping
