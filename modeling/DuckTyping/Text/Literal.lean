/-!
# String literals

A string literal writes a text between double quotes so that it can be read back: quotes,
backslashes and control characters are escaped, and every other character stands for itself.

Main definitions:

- `Text.literalEscape`: how one character is written.
- `Text.literal`: the literal of a text.
-/

namespace DuckTyping
namespace Text

/-- The escape of a control character by its code point, with four hexadecimal digits. -/
def controlEscape (c : Char) : List Char :=
  ['\\', 'u', '0', '0', Nat.digitChar (c.toNat / 16), Nat.digitChar (c.toNat % 16)]

/-- How a character is written inside a literal. -/
def literalEscape (c : Char) : List Char :=
  if c = '"' then ['\\', '"']
  else if c = '\\' then ['\\', '\\']
  else if c = '\x08' then ['\\', 'b']
  else if c = '\t' then ['\\', 't']
  else if c = '\n' then ['\\', 'n']
  else if c = '\x0C' then ['\\', 'f']
  else if c = '\r' then ['\\', 'r']
  else if c.toNat < 0x20 then controlEscape c
  else [c]

/-- The literal of a text. -/
def literal (s : String) : String :=
  String.ofList ('"' :: s.toList.flatMap literalEscape ++ ['"'])

end Text
end DuckTyping
