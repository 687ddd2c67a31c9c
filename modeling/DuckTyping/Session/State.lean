import DuckTyping.Document.Text
import DuckTyping.Expectations.Loading
import DuckTyping.Session.Term
import DuckTyping.Value.OfDocument

/-!
# The state of a session

A session keeps labels for symbols, names for values and names for contracts, and it counts the
symbols and functions that it creates, which gives each of them its identity.  Documents and values
are well-formed from the moment at which terms are evaluated, and so are all values that it keeps.

Main definitions:

- `Session.State`: what a session keeps.
- `Session.Problem`: why a command cannot be carried out.
- `Session.Action`: a computation on the state that may fail.
- `Session.evaluate`: the value of a term.
- `Session.evaluateKey`, `Session.evaluateDocument`, `Session.evaluateContract`: the meaning of the
  other terms.
-/

namespace DuckTyping
namespace Session

/-! ## State -/

/-- What a session keeps. -/
structure State where
  /-- How many symbols have been created. -/
  symbolCount : Nat
  /-- How many functions have been created. -/
  functionCount : Nat
  /-- The symbols that are bound to labels. -/
  labels : OrderedMap String Symbol
  /-- The values that are bound to names. -/
  values : OrderedMap String OrderedValue
  /-- The contracts that are bound to names. -/
  contracts : OrderedMap String Expectations

/-- A session starts without symbols, functions, labels and names. -/
def State.initial : State where
  symbolCount := 0
  functionCount := 0
  labels := .empty
  values := .empty
  contracts := .empty

/-- Why a command cannot be carried out. -/
inductive Problem where
  /-- The command makes no sense in the present state. -/
  | badRequest
  /-- A text is not that of a document. -/
  | documentText
  /-- A kind cannot be read. -/
  | kind (error : KindError)
  /-- A contract cannot be loaded. -/
  | contract (error : LoadError)
  /-- A kind cannot be loaded. -/
  | loadedKind (error : LoadError)
deriving DecidableEq, Repr

/-- A computation on the state that may fail.  What it did to the state before it failed is not
lost. -/
abbrev Action : Type → Type :=
  ExceptT Problem (StateM State)

variable {α : Type}

/-- The content of an option that must not be empty. -/
def demand : Option α → Action α
  | some content => pure content
  | none => throw .badRequest

/-! ## Symbols and functions -/

/-- Create a symbol. -/
def createSymbol (description : Option String) : Action Symbol := do
  let state ← get
  set { state with symbolCount := state.symbolCount + 1 }
  return ⟨SymbolId.afterCount state.symbolCount, description⟩

/-- Bind a symbol to a label. -/
def bindLabel (label : String) (symbol : Symbol) : Action Unit :=
  modify fun state => { state with labels := state.labels.insert label symbol }

/-- Create a symbol and bind it to a label if one is given. -/
def createLabelled (description label : Option String) : Action Symbol := do
  let symbol ← createSymbol description
  match label with
  | some label => bindLabel label symbol
  | none => pure ()
  return symbol

/-- The symbol bound to a label. -/
def symbolOf (label : String) : Action Symbol := do
  demand ((← get).labels.get? label)

/-- Create a function. -/
def createFunction (name : String) (body : Body) : Action Function := do
  let state ← get
  set { state with functionCount := state.functionCount + 1 }
  return ⟨state.functionCount, name, body⟩

/-! ## Names -/

/-- The value bound to a name. -/
def valueOf (name : String) : Action OrderedValue := do
  demand ((← get).values.get? name)

/-- Bind a value to a name. -/
def bindVariable (name : String) (value : OrderedValue) : Action Unit :=
  modify fun state => { state with values := state.values.insert name value }

/-- The contract bound to a name; a name that is not bound stands for the empty contract. -/
def contractOf (name : String) : Action Expectations := do
  return ((← get).contracts.get? name).getD .empty

/-- Bind a contract to a name. -/
def bindContract (name : String) (expected : Expectations) : Action Unit :=
  modify fun state => { state with contracts := state.contracts.insert name expected }

/-! ## Evaluation -/

/-- The key of a term. -/
def evaluateKey : KeyTerm → Action PropertyKey
  | .name text => return .name text
  | .integer value => return .ofInt value
  | .symbol label => return (← symbolOf label).key

/-- The keys of a list of terms, from left to right. -/
def evaluateKeys : List KeyTerm → Action (List PropertyKey)
  | [] => return []
  | term :: rest => do
    let key ← evaluateKey term
    let keys ← evaluateKeys rest
    return key :: keys

/-- The document of a term. -/
def evaluateDocument : DocumentTerm → Action OrderedDocument
  | .given document => return document.ordered
  | .text source =>
    match hparse : Document.parse source with
    | .ok document => return ⟨document, Document.parse_wellFormed hparse⟩
    | .error _ => throw .documentText

/-- The kind of a name. -/
def evaluateKind (name : String) : Action Kind :=
  match Kind.ofName name with
  | .ok kind => return kind
  | .error error => throw (.kind error)

mutual

/-- The value of a term.  Symbols and functions are created from left to right. -/
def evaluate : ValueTerm → Action OrderedValue
  | .undefined => return ⟨.undefined, trivial⟩
  | .null => return ⟨.null, trivial⟩
  | .bool value => return ⟨.bool value, trivial⟩
  | .number value => return ⟨.number value, trivial⟩
  | .integer value => return ⟨.ofInt value, trivial⟩
  | .single word => return ⟨.number (Double.ofSingle word), trivial⟩
  | .bigint value => return ⟨.bigint value, trivial⟩
  | .string text => return ⟨.string text, trivial⟩
  | .freshSymbol description label =>
    return ⟨.symbol (← createLabelled description label), trivial⟩
  | .symbol label => return ⟨.symbol (← symbolOf label), trivial⟩
  | .function name body => return ⟨.function (← createFunction name body), trivial⟩
  | .array elements => return .array (← evaluateElements elements)
  | .object bindings => return .ofEntries (← evaluateBindings bindings)
  | .document term => return .ofDocument (← evaluateDocument term)
  | .named name => valueOf name
  | .optional none => return .ofOption none
  | .optional (some content) => return .ofOption (some (← evaluate content))

/-- The values of a list of terms, from left to right. -/
def evaluateElements : List ValueTerm → Action (List OrderedValue)
  | [] => return []
  | term :: rest => do
    let value ← evaluate term
    let values ← evaluateElements rest
    return value :: values

/-- The bindings of an object term, each key before its value. -/
def evaluateBindings : List (KeyTerm × ValueTerm) → Action (List (PropertyKey × OrderedValue))
  | [] => return []
  | (keyTerm, term) :: rest => do
    let key ← evaluateKey keyTerm
    let value ← evaluate term
    let bindings ← evaluateBindings rest
    return (key, value) :: bindings

end

/-- The entries of a contract, each key before its kind; the first fault is reported. -/
def evaluateEntries : List (KeyTerm × String) → Action (List (PropertyKey × Kind))
  | [] => return []
  | (keyTerm, name) :: rest => do
    let key ← evaluateKey keyTerm
    let kind ← evaluateKind name
    let entries ← evaluateEntries rest
    return (key, kind) :: entries

/-- The contract of a term. -/
def evaluateContract : ContractTerm → Action Expectations
  | .entries bindings => return .ofList (← evaluateEntries bindings)
  | .named name => contractOf name

end Session
end DuckTyping
