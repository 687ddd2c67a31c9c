import DuckTyping.Kind
import DuckTyping.OrderedMap
import DuckTyping.PropertyKey

/-!
# Expectations

A contract lists the properties that matter and the kind that each of them must have.  Properties
that it does not list are unconstrained.

Main definitions:

- `Expectations`: a finite map from property keys to kinds, listed by increasing key.
- `Expectations.display`: the text of a contract.
-/

namespace DuckTyping

/-- The kind that is expected under each listed key. -/
abbrev Expectations : Type :=
  OrderedMap PropertyKey Kind

namespace Expectations

/-- The text of one entry. -/
def displayEntry (entry : PropertyKey × Kind) : String :=
  entry.1.display ++ ": " ++ entry.2.name

/-- The text of a contract: its entries in key order, between braces. -/
def display (expected : Expectations) : String :=
  "\x7b" ++ ", ".intercalate (expected.entries.map displayEntry) ++ "\x7d"

end Expectations
end DuckTyping
