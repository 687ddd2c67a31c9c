import DuckTyping.Document.Text
import DuckTyping.Proofs.Conversion.Reading

/-!
# How documents are scanned

The first character that is no blank decides what a scanned document is, and what follows it decides
what the document holds.

Main definitions:

- `Document.StartsWith`: a document is taken from a character and the text after it.

Main results:

- `Document.valueWith_eq_ok_iff`: every way in which a document can be taken from a text.
- `Document.value_eq_null_iff`, `Document.value_eq_string_iff`, `Document.value_succ_eq_object_iff`:
  the texts from which a null, a string and an object are taken.
-/

namespace DuckTyping
namespace Document

variable {nested : Option (Scanner Document)} {document : Document} {text rest : List Char}

/-- A document is taken from its first character and the text after it. -/
def StartsWith (nested : Option (Scanner Document)) (c : Char) (after rest : List Char) :
    Document → Prop
  | null => c = 'n' ∧ Scan.word ['u', 'l', 'l'] after = .ok ((), rest)
  | bool true => c = 't' ∧ Scan.word ['r', 'u', 'e'] after = .ok ((), rest)
  | bool false => c = 'f' ∧ Scan.word ['a', 'l', 's', 'e'] after = .ok ((), rest)
  | string content => c = '"' ∧ Scan.string after = .ok (content, rest)
  | number value =>
    c = '-' ∧ Scan.number true after = .ok (value, rest) ∨
      c.isDigit = true ∧ Scan.number false (c :: after) = .ok (value, rest)
  | array elements =>
    c = '[' ∧ ∃ item, nested = some item ∧ Scan.elements item after = .ok (elements, rest)
  | object members =>
    c = '{' ∧ ∃ item, nested = some item ∧ Scan.members item after = .ok (members, rest)

theorem exists_of_taken_eq_ok {α : Type} {taken : Except Scan.Failure (α × List Char)}
    (f : α → Document)
    (h : (do
      let (a, left) ← taken
      .ok (f a, left)) = Except.ok (document, rest)) :
    ∃ a, taken = .ok (a, rest) ∧ document = f a := by
  rcases bind_eq_ok_iff.mp h with ⟨⟨a, left⟩, htaken, hresult⟩
  cases hresult
  exact ⟨a, htaken, rfl⟩

theorem startsWith_of_valueWith_eq_ok (h : valueWith nested text = .ok (document, rest)) :
    ∃ c after, Scan.skipBlank text = c :: after ∧ StartsWith nested c after rest document := by
  unfold valueWith at h
  split at h
  · cases h
  · rename_i c after hblank
    refine ⟨c, after, hblank, ?_⟩
    split_ifs at h with hn ht hf hquote hminus hdigit hbracket hbrace
    · rcases exists_of_taken_eq_ok (fun _ => null) h with ⟨_, hword, rfl⟩
      exact ⟨hn, hword⟩
    · rcases exists_of_taken_eq_ok (fun _ => bool true) h with ⟨_, hword, rfl⟩
      exact ⟨ht, hword⟩
    · rcases exists_of_taken_eq_ok (fun _ => bool false) h with ⟨_, hword, rfl⟩
      exact ⟨hf, hword⟩
    · rcases exists_of_taken_eq_ok string h with ⟨_, hstring, rfl⟩
      exact ⟨hquote, hstring⟩
    · rcases exists_of_taken_eq_ok number h with ⟨_, hnumber, rfl⟩
      exact .inl ⟨hminus, hnumber⟩
    · rcases exists_of_taken_eq_ok number h with ⟨_, hnumber, rfl⟩
      exact .inr ⟨hdigit, hnumber⟩
    · cases nested with
      | none => cases h
      | some item =>
        rcases exists_of_taken_eq_ok array h with ⟨_, helements, rfl⟩
        exact ⟨hbracket, item, rfl, helements⟩
    · cases nested with
      | none => cases h
      | some item =>
        rcases exists_of_taken_eq_ok object h with ⟨_, hmembers, rfl⟩
        exact ⟨hbrace, item, rfl, hmembers⟩
    · cases h

theorem valueWith_eq_ok_of_startsWith {c : Char} {after : List Char}
    (hblank : Scan.skipBlank text = c :: after) (h : StartsWith nested c after rest document) :
    valueWith nested text = .ok (document, rest) := by
  unfold valueWith
  rw [hblank]
  cases document with
  | null =>
    rcases h with ⟨rfl, hword⟩
    simp [hword, bind, Except.bind]
  | bool value =>
    cases value with
    | true | false =>
      rcases h with ⟨rfl, hword⟩
      simp [hword, bind, Except.bind]
  | string content =>
    rcases h with ⟨rfl, hstring⟩
    simp [hstring, bind, Except.bind]
  | number value =>
    rcases h with ⟨rfl, hnumber⟩ | ⟨hdigit, hnumber⟩
    · simp [hnumber, bind, Except.bind]
    · -- No digit is one of the other characters that a document can start with.
      have hne : ∀ d : Char, d.isDigit = false → c ≠ d := by
        rintro d hd rfl
        rw [hdigit] at hd
        cases hd
      simp [hne 'n' rfl, hne 't' rfl, hne 'f' rfl, hne '"' rfl, hne '-' rfl, hdigit, hnumber, bind,
        Except.bind]
  | array elements =>
    rcases h with ⟨rfl, item, rfl, helements⟩
    have hdigit : ('[' : Char).isDigit = false := rfl
    simp [hdigit, helements, bind, Except.bind]
  | object members =>
    rcases h with ⟨rfl, item, rfl, hmembers⟩
    have hdigit : ('{' : Char).isDigit = false := rfl
    simp [hdigit, hmembers, bind, Except.bind]

/-- Every way in which a document can be taken from a text. -/
theorem valueWith_eq_ok_iff :
    valueWith nested text = .ok (document, rest) ↔
      ∃ c after, Scan.skipBlank text = c :: after ∧ StartsWith nested c after rest document := by
  constructor
  · exact startsWith_of_valueWith_eq_ok
  · rintro ⟨c, after, hblank, h⟩
    exact valueWith_eq_ok_of_startsWith hblank h

/-! ## Bounded nesting -/

/-- A null is taken at every depth from its word. -/
theorem value_eq_null_iff {depth : Nat} :
    value depth text = .ok (null, rest) ↔
      ∃ after, Scan.skipBlank text = 'n' :: after ∧
        Scan.word ['u', 'l', 'l'] after = .ok ((), rest) := by
  cases depth <;> simp [value, valueWith_eq_ok_iff, StartsWith]

/-- A string is taken at every depth from a quote and what follows it. -/
theorem value_eq_string_iff {depth : Nat} {content : String} :
    value depth text = .ok (string content, rest) ↔
      ∃ after, Scan.skipBlank text = '"' :: after ∧ Scan.string after = .ok (content, rest) := by
  cases depth <;> simp [value, valueWith_eq_ok_iff, StartsWith]

/-- An object is taken from a brace and members that hold less deeply nested documents. -/
theorem value_succ_eq_object_iff {depth : Nat} {members : List (String × Document)} :
    value (depth + 1) text = .ok (object members, rest) ↔
      ∃ after, Scan.skipBlank text = '{' :: after ∧
        Scan.members (value depth) after = .ok (members, rest) := by
  simp [value, valueWith_eq_ok_iff, StartsWith]

end Document
end DuckTyping
