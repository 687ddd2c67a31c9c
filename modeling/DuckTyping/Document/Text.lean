import DuckTyping.Scan.Members
import DuckTyping.Scan.Numeral

/-!
# Documents as text

A text is read in two steps: the scanner takes the document exactly as it is written, and the
canonical form of that is the document that the text stands for.

Main definitions:

- `Document.value`: take a document with a bounded depth of nesting.
- `Document.scan`: the document that a whole text holds, as written.
- `Document.parse`: the document that a whole text stands for.

Main results:

- `Document.parse_wellFormed`: what a text stands for is well-formed.
-/

namespace DuckTyping
namespace Document

/-! ## Values -/

/-- The greatest depth of nested arrays and objects. -/
def nestingLimit : Nat :=
  127

/-- Take a document whose nested documents are taken by a given scanner, if it may nest at all. -/
def valueWith (nested : Option (Scanner Document)) : Scanner Document := fun text =>
  match Scan.skipBlank text with
  | [] => Scan.failNext .endInValue []
  | c :: rest =>
    if c = 'n' then do
      let (_, rest) ← Scan.word ['u', 'l', 'l'] rest
      .ok (null, rest)
    else if c = 't' then do
      let (_, rest) ← Scan.word ['r', 'u', 'e'] rest
      .ok (bool true, rest)
    else if c = 'f' then do
      let (_, rest) ← Scan.word ['a', 'l', 's', 'e'] rest
      .ok (bool false, rest)
    else if c = '"' then do
      let (text, rest) ← Scan.string rest
      .ok (string text, rest)
    else if c = '-' then do
      let (value, rest) ← Scan.number true rest
      .ok (number value, rest)
    else if c.isDigit then do
      let (value, rest) ← Scan.number false (c :: rest)
      .ok (number value, rest)
    else if c = '[' then
      match nested with
      | none => Scan.failNext .tooDeep (c :: rest)
      | some item => do
        let (elements, rest) ← Scan.elements item rest
        .ok (array elements, rest)
    else if c = '{' then
      match nested with
      | none => Scan.failNext .tooDeep (c :: rest)
      | some item => do
        let (members, rest) ← Scan.members item rest
        .ok (object members, rest)
    else Scan.failNext .expectedValue (c :: rest)

/-- Take a document in which arrays and objects are nested at most to a given depth. -/
def value : Nat → Scanner Document
  | 0 => valueWith none
  | depth + 1 => valueWith (some (value depth))

/-! ## Whole texts -/

/-- The document that a text holds, as it is written. -/
def scan (text : String) : Except Scan.Fault Document :=
  Scan.whole (value nestingLimit) text

/-- The document that a text stands for. -/
def parse (text : String) : Except Scan.Fault Document :=
  (scan text).map canonical

/-- The document that a text stands for is well-formed. -/
theorem parse_wellFormed {text : String} {document : Document} (h : parse text = .ok document) :
    document.WellFormed := by
  rw [parse] at h
  cases hscan : scan text with
  | error fault =>
    rw [hscan] at h
    contradiction
  | ok written =>
    rw [hscan] at h
    cases h
    exact written.canonical_wellFormed

end Document
end DuckTyping
