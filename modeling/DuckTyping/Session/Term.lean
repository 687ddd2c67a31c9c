import DuckTyping.Document
import DuckTyping.Kind
import DuckTyping.Value

/-!
# Terms

A session is told which keys, values, documents and contracts to work on by terms.  Terms refer to
what the session has by name, and evaluating a term may create symbols and functions, so that a term
is no value yet.

Main definitions:

- `Session.KeyTerm`, `Session.ValueTerm`, `Session.DocumentTerm`, `Session.ContractTerm`.
- `Session.Subject`: what a question is asked about.
-/

namespace DuckTyping
namespace Session

/-- A term for a property key. -/
inductive KeyTerm where
  | name (text : String)
  | integer (value : Int)
  /-- The key of the symbol bound to a label. -/
  | symbol (label : String)
deriving Repr, Inhabited

/-- A term for a document. -/
inductive DocumentTerm where
  | given (document : Document)
  /-- The document that a text stands for. -/
  | text (source : String)
deriving Repr, Inhabited

/-- A term for a value. -/
inductive ValueTerm where
  | undefined
  | null
  | bool (value : Bool)
  | number (value : Double)
  /-- The number nearest to an integer. -/
  | integer (value : Int)
  /-- The number of a single-precision word. -/
  | single (word : UInt32)
  | bigint (value : Int)
  | string (text : String)
  /-- A new symbol, which may be bound to a label. -/
  | freshSymbol (description label : Option String)
  /-- The symbol bound to a label. -/
  | symbol (label : String)
  /-- A new function. -/
  | function (name : String) (body : Body)
  | array (elements : List ValueTerm)
  | object (bindings : List (KeyTerm × ValueTerm))
  /-- The value of a document. -/
  | document (document : DocumentTerm)
  /-- The value bound to a name. -/
  | named (name : String)
  /-- A value or null. -/
  | optional (content : Option ValueTerm)
deriving Repr, Inhabited

/-- A term for a contract. -/
inductive ContractTerm where
  /-- Kinds are given by name, and the last kind of a key wins. -/
  | entries (bindings : List (KeyTerm × String))
  /-- The contract bound to a name. -/
  | named (name : String)
deriving Repr, Inhabited

/-- What a question is asked about.  A document is asked about twice, as it is and as a value. -/
inductive Subject where
  | value (term : ValueTerm)
  | document (term : DocumentTerm)
deriving Repr, Inhabited

end Session
end DuckTyping
