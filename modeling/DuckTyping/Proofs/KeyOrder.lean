import DuckTyping.Proofs.Expectations.Text
import DuckTyping.Proofs.Text.ByteOrder

/-!
# The order of keys

Keys are totally ordered: names before symbols, names by their bytes or, which is the same, by their
code points, and symbols by the numbers that they were created with.  A document lists the members of
an object in the same order of names, so that a contract that is loaded from it is visited member by
member.

Main definitions:

- `Expectations.VisitedAlong`: a contract is visited in the order of the members of an object.

Main results:

- `PropertyKey.compare_trichotomy`: of two keys one comes before the other, unless they are equal.
- `Expectations.visitedAlong_of_expectations`: a loaded contract is visited along its document.
- `PropertyKey.ordered_by_code_points`: all of this together.
-/

namespace DuckTyping

/-! ## Keys -/

namespace PropertyKey

/-- Of two keys exactly one comes before the other, unless they are equal. -/
theorem compare_trichotomy (a b : PropertyKey) :
    (compare a b = .lt ∧ a ≠ b ∧ compare b a ≠ .lt) ∨
      (compare a b ≠ .lt ∧ a = b ∧ compare b a ≠ .lt) ∨
      (compare a b ≠ .lt ∧ a ≠ b ∧ compare b a = .lt) := by
  have hswap : compare b a = (compare a b).swap := Std.OrientedOrd.eq_swap
  have heq : compare a b = .eq ↔ a = b := Std.LawfulEqOrd.compare_eq_iff_eq
  rw [hswap, Ne, ← heq]
  cases compare a b <;> simp

/-- Symbols are ordered by their numbers. -/
theorem compare_symbol_eq (first second : SymbolId) :
    compare (symbol first) (symbol second) =
      compare first.number.toNat second.number.toNat := by
  have hnumber : ∀ {m n : UInt64}, compare m n = .lt → compare m.toNat n.toNat = .lt := by
    intro m n hlt
    have hless : m < n := compareOfLessAndEq_eq_lt.mp hlt
    exact Nat.compare_eq_lt.mpr hless
  exact (compare_map_eq hnumber first.number second.number).symm

end PropertyKey

/-! ## Loaded contracts -/

namespace Expectations

/-- A contract is visited along the members of an object: its keys are their names, in the order in
which the object lists them, which is the order of the bytes of the names. -/
structure VisitedAlong (expected : Expectations) (members : List (String × Document)) : Prop where
  keys : expected.entries.map Prod.fst = members.map fun member => .name member.1
  increasing : members.Pairwise fun a b => Text.utf8 a.1 < Text.utf8 b.1

/-- A contract of sorted names lists them as they are. -/
theorem entries_ofNamed_of_sorted {entries : List (String × Kind)} (h : Entries.Sorted entries) :
    (ofNamed entries).entries = entries.map fun entry => (.name entry.1, entry.2) := by
  rw [ofNamed, OrderedMap.entries_ofList]
  apply Entries.ofList_of_sorted
  exact List.pairwise_map.mpr h

/-- A contract that is loaded from a well-formed document is visited along its members. -/
theorem visitedAlong_of_expectations (document : OrderedDocument) {expected : Expectations}
    (h : Reader.expectations document.content = .ok expected) :
    ∃ members, document.content = .object members ∧ expected.VisitedAlong members := by
  rcases document with ⟨document, hwf⟩
  rcases Reader.expectations_eq_ok_iff.mp h with ⟨members, entries, rfl, hread, rfl⟩
  have hsorted : Entries.Sorted members := hwf.1
  have hnames : members.map Prod.fst = entries.map Prod.fst :=
    Entries.map_fst_eq_of_forall₂ (Reader.eachMember_eq_ok_iff.mp hread)
  have hentries : Entries.Sorted entries := by
    have hkeys : (entries.map Prod.fst).Pairwise fun a b => compare a b = .lt := by
      rw [← hnames]
      exact List.pairwise_map.mpr hsorted
    exact List.pairwise_map.mp hkeys
  refine ⟨members, rfl, ?_, hsorted.imp fun hlt => Text.utf8_lt_iff.mpr hlt⟩
  calc (ofNamed entries).entries.map Prod.fst
      = (entries.map Prod.fst).map PropertyKey.name := by
        rw [entries_ofNamed_of_sorted hentries, List.map_map, List.map_map]
        rfl
    _ = members.map fun member => .name member.1 := by
        rw [← hnames, List.map_map]
        rfl

/-- A contract that is loaded from a text is visited along the members of the object that the text
stands for. -/
theorem visitedAlong_of_parse {text : String} {expected : Expectations}
    (h : parse text = .ok expected) :
    ∃ members, Document.parse text = .ok (.object members) ∧ expected.VisitedAlong members := by
  rcases exists_written_of_parse h with ⟨written, hparse, hread⟩
  rcases visitedAlong_of_expectations written.ordered hread with
    ⟨members, hobject, hvisited⟩
  exact ⟨members, hparse.trans (congrArg Except.ok hobject), hvisited⟩

end Expectations

/-! ## The order -/

namespace PropertyKey

/-- The order of keys is a strict total order that agrees with equality, and names are ordered by
their code points.

- Of two keys exactly one comes before the other, unless they are equal, and what comes before is
  passed on.
- A name comes before every symbol, and symbols are ordered by their numbers.
- Names compare as their bytes in UTF-8 do, lexicographically, and these compare as the code points
  do.
- A contract that is loaded, from a document or from a text, is visited in the order in which the
  document lists its members, which is the order of their bytes. -/
theorem ordered_by_code_points :
    (∀ a b : PropertyKey,
      (compare a b = .lt ∧ a ≠ b ∧ compare b a ≠ .lt) ∨
        (compare a b ≠ .lt ∧ a = b ∧ compare b a ≠ .lt) ∨
        (compare a b ≠ .lt ∧ a ≠ b ∧ compare b a = .lt)) ∧
    (∀ a b c : PropertyKey, compare a b = .lt → compare b c = .lt → compare a c = .lt) ∧
    (∀ text id, compare (name text) (symbol id) = .lt) ∧
    (∀ first second : SymbolId,
      compare (symbol first) (symbol second) =
        compare first.number.toNat second.number.toNat) ∧
    (∀ s t : String, compare (name s) (name t) = compare (Text.utf8 s) (Text.utf8 t) ∧
      compare (Text.utf8 s) (Text.utf8 t) = compare (Text.codePoints s) (Text.codePoints t)) ∧
    (∀ document expected, document.WellFormed →
      Reader.expectations document = .ok expected →
        ∃ members, document = .object members ∧ expected.VisitedAlong members) ∧
    ∀ text expected, Expectations.parse text = .ok expected →
      ∃ members, Document.parse text = .ok (.object members) ∧
        expected.VisitedAlong members := by
  refine ⟨compare_trichotomy, fun _ _ _ => Std.TransCmp.lt_trans, fun _ _ => rfl,
    compare_symbol_eq, ?_, ?_, ?_⟩
  · intro s t
    exact ⟨(Text.compare_utf8 s t).symm,
      (Text.compare_utf8 s t).trans (Text.compare_codePoints s t).symm⟩
  · intro document expected hwf
    exact Expectations.visitedAlong_of_expectations ⟨document, hwf⟩
  · intro text expected
    exact Expectations.visitedAlong_of_parse

/-- A character beyond the first plane comes after the last one of that plane, although pairs of 16
bits would encode it lower, and both come before a symbol.  A contract is visited in this order, and
in the order of its names when a text lists them otherwise. -/
theorem ordered_by_code_points_beyond_plane :
    compare (name "\uffff") (symbol ⟨1⟩) = .lt ∧
    (∃ members,
      Document.object [("\uffff", .string "number"), ("😀", .string "symbol")] = .object members ∧
        (Expectations.ofNamed [("\uffff", .number), ("😀", .symbol)]).VisitedAlong members) ∧
    ∃ members,
      Document.parse "\x7b\"b\": \"number\", \"a\": \"symbol\"\x7d" = .ok (.object members) ∧
        (Expectations.ofNamed [("b", .number), ("a", .symbol)]).VisitedAlong members := by
  rcases ordered_by_code_points with ⟨-, htrans, -, -, -, hdocument, htext⟩
  refine ⟨htrans _ (name "😀") _ (by decide) rfl, hdocument _ _ ?_ ?_, htext _ _ ?_⟩
  · exact ⟨List.pairwise_pair.mpr (by decide), trivial, trivial, trivial⟩
  · cbv
  · cbv

end PropertyKey
end DuckTyping
