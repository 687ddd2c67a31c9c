import DuckTyping.Scan.Failure

/-!
# Blanks, words and strings

The scanners of this module take the simplest parts of a text.

Main definitions:

- `Scan.skipBlank`: drop the blanks at the front.
- `Scan.word`: take the rest of a fixed word.
- `Scan.string`: take a string after its opening quote.
- `Scan.finish`: check that nothing but blanks is left.
-/

namespace DuckTyping
namespace Scan

/-! ## Blanks and words -/

/-- Spaces, tabs and the two line ends may stand between the parts of a text. -/
def isBlank (c : Char) : Bool :=
  c == ' ' || c == '\t' || c == '\n' || c == '\r'

/-- The text without the blanks at its front. -/
def skipBlank (text : List Char) : List Char :=
  text.dropWhile isBlank

/-- Take the characters of a word. -/
def word : List Char → Scanner Unit
  | [], text => .ok ((), text)
  | _ :: _, [] => failHere .endInValue []
  | letter :: letters, c :: text =>
    if c = letter then word letters text else failNext .expectedWord (c :: text)

/-- Check that nothing but blanks is left. -/
def finish (text : List Char) : Except Failure Unit :=
  match skipBlank text with
  | [] => .ok ()
  | rest => failNext .trailingCharacters rest

/-! ## Escapes -/

/-- The value of a hexadecimal digit of either case. -/
def hexValue? (c : Char) : Option Nat :=
  if c.isDigit then some (c.toNat - '0'.toNat)
  else if 'a' ≤ c ∧ c ≤ 'f' then some (c.toNat - 'a'.toNat + 10)
  else if 'A' ≤ c ∧ c ≤ 'F' then some (c.toNat - 'A'.toNat + 10)
  else none

/-- The number that hexadecimal digits denote, if all of them are digits. -/
def hexNumber? (digits : List Char) : Option Nat :=
  digits.foldl (fun value digit => do return (← value) * 16 + (← hexValue? digit)) (some 0)

/-- Take four hexadecimal digits.  Fewer than four bytes are an unfinished string; four bytes that
are not digits are taken before the failure. -/
def hexUnit : Scanner Nat := fun text =>
  if byteLength (text.take 4) < 4 then failHere .endInString []
  else
    match hexNumber? (text.take 4) with
    | some unit => .ok (unit, text.drop 4)
    | none => .error ⟨.invalidEscape, text, 4⟩

/-- Whether a number is the first half of a surrogate pair. -/
def isHighSurrogate (unit : Nat) : Bool :=
  decide (0xD800 ≤ unit ∧ unit ≤ 0xDBFF)

/-- Whether a number is the second half of a surrogate pair. -/
def isLowSurrogate (unit : Nat) : Bool :=
  decide (0xDC00 ≤ unit ∧ unit ≤ 0xDFFF)

/-- The character that a surrogate pair stands for. -/
def pairedCharacter (high low : Nat) : Char :=
  Char.ofNat (0x10000 + (high - 0xD800) * 0x400 + (low - 0xDC00))

/-- Take a character that has to follow the first half of a surrogate pair. -/
def surrogateMark (mark : Char) : Scanner Unit
  | [] => failHere .endInString []
  | c :: text => if c = mark then .ok ((), text) else failNext .missingSurrogate (c :: text)

/-- Take the character that an escape by number denotes, after its `u`. -/
def numberedEscape : Scanner Char := fun text => do
  let (unit, rest) ← hexUnit text
  if isLowSurrogate unit then failHere .loneSurrogate rest
  else if isHighSurrogate unit then
    let (_, rest) ← surrogateMark '\\' rest
    let (_, rest) ← surrogateMark 'u' rest
    let (low, rest) ← hexUnit rest
    if isLowSurrogate low then .ok (pairedCharacter unit low, rest)
    else failHere .loneSurrogate rest
  else .ok (Char.ofNat unit, rest)

/-- Take the character that an escape denotes, after its backslash. -/
def escape : Scanner Char
  | [] => failHere .endInString []
  | c :: text =>
    if c = '"' ∨ c = '\\' ∨ c = '/' then .ok (c, text)
    else if c = 'b' then .ok ('\x08', text)
    else if c = 'f' then .ok ('\x0C', text)
    else if c = 'n' then .ok ('\n', text)
    else if c = 'r' then .ok ('\r', text)
    else if c = 't' then .ok ('\t', text)
    else if c = 'u' then numberedEscape text
    else failNext .invalidEscape (c :: text)

/-! ## Strings -/

/-- Take the characters of a string up to its closing quote.  Each of them takes at least one
character of the text, so the length of the text bounds their number. -/
def stringCharacters : Nat → Scanner (List Char)
  | 0, text => failHere .endInString text
  | _ + 1, [] => failHere .endInString []
  | bound + 1, c :: text =>
    if c = '"' then .ok ([], text)
    else if c = '\\' then do
      let (first, rest) ← escape text
      let (others, rest) ← stringCharacters bound rest
      .ok (first :: others, rest)
    else if c.toNat < 0x20 then failNext .controlCharacter (c :: text)
    else do
      let (others, rest) ← stringCharacters bound text
      .ok (c :: others, rest)

/-- Take a string after its opening quote. -/
def string : Scanner String := fun text => do
  let (characters, rest) ← stringCharacters (text.length + 1) text
  .ok (String.ofList characters, rest)

end Scan
end DuckTyping
