import DuckTyping.Session.Command
import DuckTyping.Value.Equality

/-!
# Carrying out commands

A command is carried out on the state of a session.  A command that fails leaves all labels and
names as they were; only the symbols and functions that it created stay counted.

Main definitions:

- `Session.execute`: what a command does and gives.
- `Session.step`: a command with its outcome, failed or not.
-/

namespace DuckTyping
namespace Session

/-! ## Questions -/

/-- Reflect on a subject; a document is reflected on as it is and as a value. -/
def inspect (subject : Subject) (keyTerms : List KeyTerm) : Action Outcome := do
  match subject with
  | .value term =>
    let value := (← evaluate term).content
    let keys ← evaluateKeys keyTerms
    return .inspection none (Report.of value keys) value (keys.map value.get?)
  | .document term =>
    let document := (← evaluateDocument term).content
    let keys ← evaluateKeys keyTerms
    let value := Value.ofDocument document
    return .inspection (some (Report.of document keys)) (Report.of value keys) value
      (keys.map value.get?)

/-- Check a subject against a contract; a document is checked as it is and as a value. -/
def check (subject : Subject) (contractTerm : ContractTerm) : Action Outcome := do
  match subject with
  | .value term =>
    let value := (← evaluate term).content
    let expected ← evaluateContract contractTerm
    return .verdicts none (Verdicts.of value expected)
  | .document term =>
    let document := (← evaluateDocument term).content
    let expected ← evaluateContract contractTerm
    return .verdicts (some (Verdicts.of document expected))
      (Verdicts.of (Value.ofDocument document) expected)

/-- Tell whether a subject has a shape. -/
def recognise (shape : ShapeName) (subject : Subject) : Action Outcome := do
  match subject with
  | .value term =>
    let value := (← evaluate term).content
    return .recognition shape.expectations false (shape.recognise value)
  | .document term =>
    let document := (← evaluateDocument term).content
    return .recognition shape.expectations true (shape.recognise document)

/-- Apply a function to arguments. -/
def call (functionTerm : ValueTerm) (argumentTerms : List ValueTerm) : Action Outcome := do
  let value := (← evaluate functionTerm).content
  let arguments ← evaluateElements argumentTerms
  match value with
  | .function function =>
    return .call function.name (function.call (arguments.map OrderedValue.content))
  | _ => throw .badRequest

/-- Load a kind from a document. -/
def loadKindDocument (term : DocumentTerm) : Action Outcome := do
  let document := (← evaluateDocument term).content
  match Reader.kind document with
  | .ok kind => return .kind kind
  | .error error => throw (.loadedKind (.document error))

/-- Load a kind from a text. -/
def loadKindText (text : String) : Action Outcome :=
  match Kind.parse text with
  | .ok kind => return .kind kind
  | .error fault => throw (.loadedKind (.text fault))

/-! ## Contracts -/

/-- The contract after work on it, with what the work gives back. -/
def reviseContract (expected : Expectations) :
    ContractCommand → Action (Returned × Expectations)
  | .clear => return (.nothing, .empty)
  | .put keyTerm name => do
    let key ← evaluateKey keyTerm
    let kind ← evaluateKind name
    let (previous, revised) := expected.put key kind
    return (.kind previous, revised)
  | .insert keyTerm name => do
    let key ← evaluateKey keyTerm
    let kind ← evaluateKind name
    return (.nothing, expected.insert key kind)
  | .extend entries => do
    return (.nothing, expected.extend (← evaluateEntries entries))
  | .collect entries => do
    return (.nothing, .ofList (← evaluateEntries entries))
  | .get keyTerm => do
    let key ← evaluateKey keyTerm
    return (.kind (expected.get? key), expected)
  | .copy source => do
    return (.nothing, ← contractOf source)
  | .compare other => do
    return (.flag (expected == (← contractOf other)), expected)
  | .loadText text =>
    match Expectations.parse text with
    | .ok loaded => return (.nothing, loaded)
    | .error fault => throw (.contract (.text fault))
  | .loadDocument term => do
    let document := (← evaluateDocument term).content
    match Reader.expectations document with
    | .ok loaded => return (.nothing, loaded)
    | .error error => throw (.contract (.document error))

/-- Work on a named contract. -/
def onContract (name : String) (command : ContractCommand) : Action Outcome := do
  let expected ← contractOf name
  let (returned, revised) ← reviseContract expected command
  bindContract name revised
  return .contract returned revised

/-! ## Values -/

/-- The value of a name after work on it, with what the work gives back. -/
def reviseValue (name : String) : ValueCommand → Action (Option Value × OrderedValue)
  | .assign term => do
    return (none, ← evaluate term)
  | .put keyTerm term => do
    let key ← evaluateKey keyTerm
    let item ← evaluate term
    demand ((← valueOf name).put? key item)
  | .take keyTerm => do
    let key ← evaluateKey keyTerm
    demand ((← valueOf name).take? key)
  | .clear => return (none, .ofEntries [])
  | .push term => do
    let item ← evaluate term
    return (none, ← demand ((← valueOf name).push? item))
  | .pop => do
    demand (← valueOf name).pop?

/-- Work on a named value. -/
def onValue (name : String) (command : ValueCommand) : Action Outcome := do
  let (returned, revised) ← reviseValue name command
  bindVariable name revised
  return .value returned revised.content

/-! ## Commands -/

/-- What a command does and gives. -/
def execute : Command → Action Outcome
  | .readKind name => return .kind (← evaluateKind name)
  | .listKinds => return .kinds Kind.all
  | .compareKinds left right => do
    let left ← evaluateKind left
    let right ← evaluateKind right
    return .comparison (compare left right) (left == right)
  | .loadKindText text => loadKindText text
  | .loadKindDocument term => loadKindDocument term
  | .describeTag tag => return .tag tag
  | .kindOfTag tag =>
    match Kind.ofTag tag with
    | .ok kind => return .kind kind
    | .error error => throw (.kind error)
  | .createSymbol description label => return .symbol (← createLabelled description label)
  | .describeKey term => return .key (← evaluateKey term)
  | .compareKeys left right => do
    let left ← evaluateKey left
    let right ← evaluateKey right
    return .comparison (compare left right) (left == right)
  | .inspect subject keyTerms => inspect subject keyTerms
  | .compareValues terms => do
    let values := (← evaluateElements terms).map OrderedValue.content
    return .equality values (values.map fun a => values.map fun b => a.equals b)
  | .call functionTerm argumentTerms => call functionTerm argumentTerms
  | .check subject contractTerm => check subject contractTerm
  | .narrow target term contractTerm asArray => do
    let document := (← evaluateDocument term).content
    let expected ← evaluateContract contractTerm
    return .narrowed
      (if asArray then target.narrowArray document expected else target.narrow document expected)
  | .ensure shape term asArray => do
    let document := (← evaluateDocument term).content
    return .ensured (if asArray then shape.ensureArray document else shape.ensure document)
  | .recognise shape subject => recognise shape subject
  | .onContract name command => onContract name command
  | .onValue name command => onValue name command

/-- Carry out a command.  After a failure the session keeps what it kept before, but the symbols and
functions that were created stay counted. -/
def step (state : State) (command : Command) : Outcome × State :=
  match (execute command).run state with
  | (.ok outcome, revised) => (outcome, revised)
  | (.error problem, reached) =>
    (.failed problem,
      { state with symbolCount := reached.symbolCount, functionCount := reached.functionCount })

end Session
end DuckTyping
