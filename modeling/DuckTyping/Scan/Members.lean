import DuckTyping.Scan.Token

/-!
# Arrays and objects

The contents of arrays and objects are taken by scanners that are built from a scanner of their
items, so that one grammar of brackets, commas and names serves documents of every kind of item.
Every item takes at least one character of the text, so the length of the text bounds their number.

Main definitions:

- `Scan.elements`: the items of an array after its opening bracket.
- `Scan.members`: the named items of an object after its opening brace.
-/

namespace DuckTyping
namespace Scan

variable {α : Type}

/-! ## Separators -/

/-- Come to the next item of a sequence that its closing character does not end here.  Before the
first item nothing has to be taken; before every other a comma, after which an item has to
follow. -/
def nextItem (first : Bool) (closing : Char) (noComma : Cause) (text : List Char) :
    Except Failure (List Char) :=
  if first then .ok text
  else
    match text with
    | ',' :: rest =>
      match skipBlank rest with
      | [] => failNext .endInValue []
      | c :: rest => if c = closing then failNext .trailingComma (c :: rest) else .ok (c :: rest)
    | _ => failNext noComma text

/-- Take the colon between a name and its item. -/
def colon : Scanner Unit := fun text =>
  match skipBlank text with
  | [] => failNext .endInObject []
  | c :: rest => if c = ':' then .ok ((), rest) else failNext .expectedColon (c :: rest)

/-- Take the name of a member. -/
def memberName : Scanner String
  | '"' :: text => string text
  | text => failNext .nameNotString text

/-- Take a name, a colon and an item. -/
def member (item : Scanner α) : Scanner (String × α) := fun text => do
  let (name, rest) ← memberName text
  let (_, rest) ← colon rest
  let (content, rest) ← item rest
  .ok ((name, content), rest)

/-! ## Sequences of items -/

/-- Take the items of an array up to its closing bracket. -/
def elementsFrom (item : Scanner α) : Nat → Bool → Scanner (List α)
  | 0, _, text => failNext .endInArray text
  | bound + 1, first, text =>
    match skipBlank text with
    | [] => failNext .endInArray []
    | c :: text =>
      if c = ']' then .ok ([], text)
      else do
        let text ← nextItem first ']' .expectedCommaOrBracket (c :: text)
        let (content, text) ← item text
        let (contents, text) ← elementsFrom item bound false text
        .ok (content :: contents, text)

/-- Take the items of an array after its opening bracket. -/
def elements (item : Scanner α) : Scanner (List α) := fun text =>
  elementsFrom item (text.length + 1) true text

/-- Take the members of an object up to its closing brace. -/
def membersFrom (item : Scanner α) : Nat → Bool → Scanner (List (String × α))
  | 0, _, text => failNext .endInObject text
  | bound + 1, first, text =>
    match skipBlank text with
    | [] => failNext .endInObject []
    | c :: text =>
      if c = '}' then .ok ([], text)
      else do
        let text ← nextItem first '}' .expectedCommaOrBrace (c :: text)
        let (entry, text) ← member item text
        let (entries, text) ← membersFrom item bound false text
        .ok (entry :: entries, text)

/-- Take the members of an object after its opening brace, in the order in which they stand and
with repeated names. -/
def members (item : Scanner α) : Scanner (List (String × α)) := fun text =>
  membersFrom item (text.length + 1) true text

/-! ## Whole texts -/

/-- Scan a whole text with a scanner that has to take all of it but trailing blanks. -/
def whole (item : Scanner α) (text : String) : Except Fault α :=
  let characters := text.toList
  let result : Except Failure α := do
    let (content, rest) ← item characters
    finish rest
    .ok content
  result.mapError fun failure => ⟨failure.cause, failure.position characters⟩

end Scan
end DuckTyping
