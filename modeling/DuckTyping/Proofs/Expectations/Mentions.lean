import DuckTyping.Proofs.Expectations.Text
import DuckTyping.Proofs.Value.Mentions

/-!
# Symbols in contracts

A contract mentions the symbols that it lists a kind for.  Working on contracts brings in only the
symbols of the keys that are given, and contracts that are loaded have none.

Main definitions:

- `Expectations.Mentions`: a symbol is listed in a contract.

Main results:

- `Expectations.mentions_of_insert`, `Expectations.mentions_of_extend`: what contracts mention after
  kinds are expected under more keys.
- `Expectations.not_mentions_of_parse`, `Expectations.not_mentions_of_read`: contracts that are
  loaded from texts and documents mention no symbol.
- `Expectations.get?_eq_none_iff_not_mentions`: a contract expects nothing under the symbols that it
  does not mention, and only under those.
-/

namespace DuckTyping
namespace Expectations

/-- A contract lists a kind under a symbol. -/
def Mentions (expected : Expectations) (id : SymbolId) : Prop :=
  ∃ entry ∈ expected.entries, entry.1.Mentions id

variable {expected : Expectations} {id : SymbolId}

theorem get?_eq_none_iff_not_mentions :
    expected.get? (.symbol id) = none ↔ ¬ expected.Mentions id := by
  rw [OrderedMap.get?, Entries.find?_eq_none_iff, Mentions]
  push Not
  rfl

theorem not_mentions_empty : ¬ Mentions .empty id := by
  rw [← get?_eq_none_iff_not_mentions, OrderedMap.get?_empty]

/-- After one more kind a contract mentions what it did before and the key. -/
theorem mentions_of_insert {key : PropertyKey} {kind : Kind}
    (h : Mentions (expected.insert key kind) id) : expected.Mentions id ∨ key.Mentions id := by
  rcases h with ⟨entry, hmem, hkey⟩
  rcases Entries.mem_of_mem_insert hmem with rfl | hmem
  · exact Or.inr hkey
  · exact Or.inl ⟨entry, hmem, hkey⟩

/-- After the kinds of a list a contract mentions what it did before and the keys of the list. -/
theorem mentions_of_extend {entries : List (PropertyKey × Kind)}
    (h : Mentions (expected.extend entries) id) :
    expected.Mentions id ∨ ∃ entry ∈ entries, entry.1.Mentions id := by
  rcases h with ⟨entry, hmem, hkey⟩
  rw [OrderedMap.entries_extend] at hmem
  rcases Entries.mem_of_mem_extend hmem with hmem | hmem
  · exact Or.inl ⟨entry, hmem, hkey⟩
  · exact Or.inr ⟨entry, hmem, hkey⟩

/-- A contract that is read from a document mentions no symbol. -/
theorem not_mentions_of_read {document : Document}
    (h : Reader.expectations document = .ok expected) : ¬ expected.Mentions id := by
  rcases Reader.expectations_eq_ok_iff.mp h with ⟨members, entries, -, -, rfl⟩
  rw [← get?_eq_none_iff_not_mentions, get?_ofNamed_symbol]

/-- A contract that is read from a text mentions no symbol. -/
theorem not_mentions_of_parse {text : String} (h : parse text = .ok expected) :
    ¬ expected.Mentions id := by
  rcases parse_eq_ok_iff.mp h with ⟨written, -, hread⟩
  exact not_mentions_of_read hread

end Expectations
end DuckTyping
