import DuckTyping.Text.Printable

/-!
# Quoted text

Messages show a piece of text between double quotes.  A quote, a backslash and the common control
characters are written as two-character escapes, every other character that does not print on its
own by its code point, and all the rest as themselves, so that the quoted form is unambiguous and
shows everything.

Main definitions:

- `Text.escape`: how one character is written.
- `Text.quote`: the quoted form of a text.
-/

namespace DuckTyping
namespace Text

/-! ## Escapes -/

/-- The escape `\u{...}` that names a character by its code point, in lowercase hexadecimal
without padding. -/
def codePointEscape (c : Char) : List Char :=
  ['\\', 'u', '\x7b'] ++ Nat.toDigits 16 c.toNat ++ ['\x7d']

/-- How a character is written inside a quoted text. -/
def escape (c : Char) : List Char :=
  if c = '\x00' then ['\\', '0']
  else if c = '\t' then ['\\', 't']
  else if c = '\r' then ['\\', 'r']
  else if c = '\n' then ['\\', 'n']
  else if c = '"' then ['\\', '"']
  else if c = '\\' then ['\\', '\\']
  else if isPrintable c then [c]
  else codePointEscape c

/-- A text between double quotes, with each of its characters escaped where needed. -/
def quote (s : String) : String :=
  String.ofList ('"' :: s.toList.flatMap escape ++ ['"'])

end Text
end DuckTyping
