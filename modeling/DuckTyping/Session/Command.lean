import DuckTyping.Session.State
import DuckTyping.Shape.Narrowed

/-!
# Commands and outcomes

A command asks a question or changes what a session keeps; its outcome holds what was asked for.

Main definitions:

- `Session.Command`: what a session can be told to do.
- `Session.ContractCommand`, `Session.ValueCommand`: work on a named contract or value.
- `Session.Outcome`: what a command gives.
-/

namespace DuckTyping
namespace Session

/-! ## Commands -/

/-- Work on a named contract. -/
inductive ContractCommand where
  /-- Start again with the empty contract. -/
  | clear
  /-- Expect a kind under a key and give the kind expected there before. -/
  | put (key : KeyTerm) (kind : String)
  /-- Expect a kind under a key. -/
  | insert (key : KeyTerm) (kind : String)
  /-- Expect all kinds of a list. -/
  | extend (entries : List (KeyTerm × String))
  /-- Start again with the contract of a list. -/
  | collect (entries : List (KeyTerm × String))
  /-- Give the kind expected under a key. -/
  | get (key : KeyTerm)
  /-- Start again with another named contract. -/
  | copy (source : String)
  /-- Tell whether another named contract is the same. -/
  | compare (other : String)
  /-- Start again with the contract that a text holds. -/
  | loadText (text : String)
  /-- Start again with the contract that a document holds. -/
  | loadDocument (document : DocumentTerm)
deriving Repr

/-- Work on a named value. -/
inductive ValueCommand where
  /-- Bind the name to a value. -/
  | assign (term : ValueTerm)
  /-- Bind a property of an object and give what it was bound to. -/
  | put (key : KeyTerm) (term : ValueTerm)
  /-- Unbind a property of an object and give what it was bound to. -/
  | take (key : KeyTerm)
  /-- Start again with an empty object. -/
  | clear
  /-- Append an element to an array. -/
  | push (term : ValueTerm)
  /-- Drop the last element of an array and give it. -/
  | pop
deriving Repr

/-- What a session can be told to do. -/
inductive Command where
  /-- Read a kind from its name. -/
  | readKind (name : String)
  /-- List all kinds. -/
  | listKinds
  /-- Compare two kinds by declaration order. -/
  | compareKinds (left right : String)
  /-- Load a kind from a text. -/
  | loadKindText (text : String)
  /-- Load a kind from a document. -/
  | loadKindDocument (document : DocumentTerm)
  /-- Describe a tag. -/
  | describeTag (tag : TypeTag)
  /-- Give the kind that asks for a tag. -/
  | kindOfTag (tag : TypeTag)
  /-- Create a symbol. -/
  | createSymbol (description label : Option String)
  /-- Describe a key. -/
  | describeKey (key : KeyTerm)
  /-- Compare two keys. -/
  | compareKeys (left right : KeyTerm)
  /-- Reflect on a subject and on its properties under given keys. -/
  | inspect (subject : Subject) (keys : List KeyTerm)
  /-- Compare all pairs of a list of values. -/
  | compareValues (terms : List ValueTerm)
  /-- Apply a function to arguments. -/
  | call (function : ValueTerm) (arguments : List ValueTerm)
  /-- Check a subject against a contract in all ways. -/
  | check (subject : Subject) (expected : ContractTerm)
  /-- Narrow a document, or an array of documents, that passes the check against a contract. -/
  | narrow (target : TargetName) (document : DocumentTerm) (expected : ContractTerm)
      (asArray : Bool)
  /-- Narrow a document, or an array of documents, to a shape. -/
  | ensure (shape : ShapeName) (document : DocumentTerm) (asArray : Bool)
  /-- Tell whether a subject has a shape. -/
  | recognise (shape : ShapeName) (subject : Subject)
  /-- Work on a named contract. -/
  | onContract (name : String) (command : ContractCommand)
  /-- Work on a named value. -/
  | onValue (name : String) (command : ValueCommand)

/-! ## Outcomes -/

/-- What reflection tells of a value. -/
structure Report where
  tag : TypeTag
  /-- What the elements are, if the value is a sequence. -/
  elements : Option (List TypeTag)
  /-- What the properties under the given keys are. -/
  properties : List TypeTag
deriving DecidableEq, Repr

/-- Reflect on a value and on its properties under given keys. -/
def Report.of {α : Type} [Reflection α] (value : α) (keys : List PropertyKey) : Report where
  tag := Reflection.typeTag value
  elements := (Reflection.elements value).map fun elements => elements.map Reflection.typeTag
  properties := keys.map (Reflection.propertyTag value)

/-- What the guards say of a value. -/
structure Verdicts where
  isObject : Bool
  /-- The verdict on the value itself. -/
  single : Traced Bool
  /-- The verdict on the value as a sequence. -/
  array : Traced Bool
deriving DecidableEq, Repr

/-- Put a value to all guards. -/
def Verdicts.of {α : Type} [Reflection α] (value : α) (expected : Expectations) : Verdicts where
  isObject := Guard.isObject value
  single := Guard.check value expected
  array := Guard.checkArray value expected

/-- What work on a contract gives back. -/
inductive Returned where
  | nothing
  | kind (kind : Option Kind)
  | flag (value : Bool)
deriving DecidableEq, Repr

/-- What a command gives. -/
inductive Outcome where
  | kind (kind : Kind)
  | kinds (kinds : List Kind)
  | tag (tag : TypeTag)
  | key (key : PropertyKey)
  /-- How two things are ordered, and whether they are equal. -/
  | comparison (order : Ordering) (equal : Bool)
  | symbol (symbol : Symbol)
  /-- Reports on a document, if the subject is one, and on a value; the value itself, and what it
  has under the given keys. -/
  | inspection (document : Option Report) (value : Report) (content : Value)
      (found : List (Option Value))
  /-- Values, and whether each of them is equal to each of them. -/
  | equality (values : List Value) (equal : List (List Bool))
  /-- The name of a function and the result of a call. -/
  | call (name : String) (result : Value)
  /-- Verdicts on a document, if the subject is one, and on a value. -/
  | verdicts (document : Option Verdicts) (value : Verdicts)
  | narrowed (result : Traced (Option Narrowed))
  | ensured (result : Traced (Except GuardError Narrowed))
  /-- The contract of a shape, whether the subject is a document, and whether it has the shape. -/
  | recognition (expected : Expectations) (onDocument : Bool) (result : Traced (Bool × Bool))
  /-- What the work gives back, and the contract after it. -/
  | contract (returned : Returned) (expected : Expectations)
  /-- What the work gives back, and the value after it. -/
  | value (returned : Option Value) (content : Value)
  | failed (problem : Problem)

end Session
end DuckTyping
