import DuckTyping.Proofs.Document.Scanning
import DuckTyping.Proofs.Expectations.Canonical
import DuckTyping.Proofs.Scan.Streaming
import Mathlib.Algebra.Module.Submodule.Lattice
import Mathlib.Data.List.Permutation

/-!
# Contracts in texts

A contract can be scanned straight from a text, or the document that the text stands for can be
parsed first and the contract read from it.  Both scan the same grammar, so that they differ only in
when repeated names are dropped.

Main results:

- `Scan.streams_kind`: a kind is scanned as the documents of kinds are.
- `Expectations.parse_eq_ok_iff`: a contract is scanned exactly when it is read from the document as
  written.
- `Expectations.parse_agrees`: a contract that is scanned is read from the parsed document, and the
  converse holds where no name is repeated.
-/

namespace DuckTyping

/-! ## Kinds -/

namespace Scan

variable {text rest : List Char} {kind : Kind}

theorem kindName_eq_ok_iff :
    kindName text = .ok (kind, rest) ↔ string text = .ok (kind.name, rest) := by
  simp only [kindName, bind_eq_ok_iff]
  constructor
  · rintro ⟨⟨name, left⟩, hstring, h⟩
    split at h
    · rename_i found hfound
      cases h
      have hname : name = kind.name := Reader.kindNamed_eq_ok_iff.mp hfound
      rw [hstring, hname]
    · cases h
  · intro hstring
    refine ⟨_, hstring, ?_⟩
    rw [Reader.kindNamed_eq_ok_iff.mpr rfl]

/-- What is refused is not taken, whatever it is. -/
theorem refuse_ne_ok {α : Type} {expected : String} {result : α × List Char} :
    refuse expected text ≠ .ok result := by
  intro h
  unfold refuse at h
  split at h
  · cases h
  · split_ifs at h <;> simp [bind_eq_ok_iff, failHere, failNext] at h

theorem unit_eq_ok_iff (depth : Nat) {result : Unit} :
    unit text = .ok (result, rest) ↔ Document.value depth text = .ok (.null, rest) := by
  rw [Document.value_eq_null_iff, unit]
  cases skipBlank text with
  | nil => simp [failNext]
  | cons c after => by_cases hc : c = 'n' <;> simp [hc, refuse_ne_ok]

theorem memberName_eq_ok_iff {name : String} :
    memberName text = .ok (name, rest) ↔
      ∃ after, text = '"' :: after ∧ string after = .ok (name, rest) := by
  unfold memberName
  split
  · simp
  · rename_i hquote
    simp only [failNext, reduceCtorEq, false_iff, not_exists, not_and]
    intro after htext
    exact absurd htext (hquote after)

/-- A kind in braces is scanned exactly where an object is whose only member has its name and holds
null. -/
theorem taggedKind_eq_ok_iff (depth : Nat) :
    taggedKind text = .ok (kind, rest) ↔
      members (Document.value depth) text = .ok ([(kind.name, .null)], rest) := by
  -- Two steps through the object are needed, one for its member and one for its closing brace, and
  -- only a text that is not empty leaves a bound for the second.
  cases text with
  | nil => simp [taggedKind, members, membersFrom, skipBlank, failNext]
  | cons head tail =>
    simp only [members, List.length_cons, membersFrom_eq_cons_iff, membersFrom_eq_nil_iff,
      member_eq_ok_iff, memberName_eq_ok_iff, nextItem, if_true, Except.ok.injEq]
    unfold taggedKind
    constructor
    · intro h
      split at h
      · cases h
      · rename_i c after hblank
        split_ifs at h with hquote
        · simp only [bind_eq_ok_iff] at h
          rcases h with ⟨⟨_, afterName⟩, hname, ⟨_, afterColon⟩, hcolon, ⟨_, afterUnit⟩, hunit,
            ⟨_, left⟩, hbrace, h⟩
          cases h
          subst hquote
          exact ⟨'"', after, _, afterUnit, hblank, by decide, rfl,
            ⟨afterName, afterColon, ⟨after, rfl, kindName_eq_ok_iff.mp hname⟩, hcolon,
              (unit_eq_ok_iff depth).mp hunit⟩, closingBrace_eq_ok_iff.mp hbrace⟩
        · cases h
        · cases h
    · rintro ⟨c, after, _, afterUnit, hblank, -, rfl,
        ⟨afterName, afterColon, ⟨_, hquote, hname⟩, hcolon, hunit⟩, hbrace⟩
      cases hquote
      have htaken : unit afterColon = .ok ((), afterUnit) := (unit_eq_ok_iff depth).mpr hunit
      simp [hblank, kindName_eq_ok_iff.mpr hname, hcolon, htaken,
        closingBrace_eq_ok_iff.mpr hbrace, bind, Except.bind]

theorem kind_eq_ok_iff (depth : Nat) :
    Scan.kind text = .ok (kind, rest) ↔
      Document.value (depth + 1) text = .ok (.string kind.name, rest) ∨
        Document.value (depth + 1) text = .ok (.object [(kind.name, .null)], rest) := by
  rw [Document.value_eq_string_iff, Document.value_succ_eq_object_iff, Scan.kind]
  cases skipBlank text with
  | nil => simp [failNext]
  | cons c after =>
    by_cases hquote : c = '"'
    · subst hquote
      simp [kindName_eq_ok_iff]
    · by_cases hbrace : c = '{'
      · subst hbrace
        simp [taggedKind_eq_ok_iff depth]
      · simp [hquote, hbrace, failNext]

/-- A kind is scanned as the documents of kinds are. -/
theorem streams_kind (depth : Nat) :
    Streams Scan.kind (Document.value (depth + 1)) Reader.kind := by
  intro text kind rest
  rw [kind_eq_ok_iff depth]
  constructor
  · rintro (hstring | hobject)
    · exact ⟨_, hstring, Reader.kind_eq_ok_iff.mpr (.inl rfl)⟩
    · exact ⟨_, hobject, Reader.kind_eq_ok_iff.mpr (.inr rfl)⟩
  · rintro ⟨document, hvalue, hread⟩
    rcases Reader.kind_eq_ok_iff.mp hread with rfl | rfl
    · exact .inl hvalue
    · exact .inr hvalue

/-- The kinds of a contract are scanned exactly where an object is whose members are read as those
kinds. -/
theorem namedKinds_eq_ok_iff (depth : Nat) {entries : List (String × Kind)} :
    namedKinds text = .ok (entries, rest) ↔
      ∃ members, Document.value (depth + 2) text = .ok (.object members, rest) ∧
        Reader.eachMember Reader.kind members = .ok entries := by
  simp only [Document.value_succ_eq_object_iff]
  unfold namedKinds
  cases skipBlank text with
  | nil => simp [failNext]
  | cons c after =>
    by_cases hbrace : c = '{'
    · subst hbrace
      simp [(streams_kind depth).members_eq_ok_iff]
    · simp [hbrace, refuse_ne_ok]

end Scan

/-! ## Contracts -/

namespace Expectations

/-- A contract is scanned exactly when it is read from the document as written. -/
theorem parse_eq_ok_iff {text : String} {expected : Expectations} :
    parse text = .ok expected ↔
      ∃ written, Document.scan text = .ok written ∧ Reader.expectations written = .ok expected := by
  have hnamed : ∀ entries rest, Scan.namedKinds text.toList = .ok (entries, rest) ↔
      ∃ members, Document.value Document.nestingLimit text.toList = .ok (.object members, rest) ∧
        Reader.eachMember Reader.kind members = .ok entries :=
    fun _ _ => Scan.namedKinds_eq_ok_iff (Document.nestingLimit - 2)
  simp only [parse, Document.scan, map_eq_ok_iff, Scan.whole_eq_ok_iff, hnamed]
  constructor
  · rintro ⟨entries, ⟨rest, ⟨members, hvalue, hread⟩, hblank⟩, rfl⟩
    exact ⟨_, ⟨rest, hvalue, hblank⟩,
      Reader.expectations_eq_ok_iff.mpr ⟨members, entries, rfl, hread, rfl⟩⟩
  · rintro ⟨written, ⟨rest, hvalue, hblank⟩, hread⟩
    rcases Reader.expectations_eq_ok_iff.mp hread with ⟨members, entries, rfl, hentries, rfl⟩
    exact ⟨entries, ⟨rest, ⟨members, hvalue, hentries⟩, hblank⟩, rfl⟩

/-- A contract that is scanned from a text is read from the canonical form of the document that is
written there. -/
theorem exists_written_of_parse {text : String} {expected : Expectations}
    (h : parse text = .ok expected) :
    ∃ written : Document, Document.parse text = .ok written.canonical ∧
      Reader.expectations written.canonical = .ok expected := by
  rcases parse_eq_ok_iff.mp h with ⟨written, hscan, hread⟩
  refine ⟨written, ?_, Reader.expectations_canonical hread⟩
  rw [Document.parse, hscan, Except.map]

/-- A contract that is scanned from a text is read from the document that the text stands for, and
where no object repeats a name the converse holds; a text of no document is refused. -/
theorem parse_agrees (text : String) :
    (∀ expected, parse text = .ok expected →
      ∃ document, Document.parse text = .ok document ∧
        Reader.expectations document = .ok expected) ∧
    (∀ written document expected, Document.scan text = .ok written → written.NamesDistinct →
      Document.parse text = .ok document → Reader.expectations document = .ok expected →
        parse text = .ok expected) ∧
    (∀ fault, Document.parse text = .error fault → ∃ refusal, parse text = .error refusal) := by
  have hforward : ∀ expected, parse text = .ok expected →
      ∃ document, Document.parse text = .ok document ∧
        Reader.expectations document = .ok expected := by
    intro expected h
    rcases exists_written_of_parse h with ⟨written, hparse, hread⟩
    exact ⟨written.canonical, hparse, hread⟩
  refine ⟨hforward, ?_, ?_⟩
  · intro written document expected hscan hdistinct hparse hread
    rw [Document.parse, hscan] at hparse
    cases hparse
    exact parse_eq_ok_iff.mpr ⟨written, hscan, Reader.expectations_of_canonical hdistinct hread⟩
  · intro fault hparse
    cases h : parse text with
    | error refusal => exact ⟨refusal, rfl⟩
    | ok expected =>
      rcases hforward expected h with ⟨document, hdocument, -⟩
      rw [hparse] at hdocument
      cases hdocument

/-- A repeated name, a kind in braces and an unfinished text. -/
theorem parse_agrees_spellings :
    (∃ document,
      Document.parse "\x7b\"a\": \"string\", \"a\": \x7b\"number\": null\x7d\x7d" =
        .ok document ∧
      Reader.expectations document = .ok (ofNamed [("a", .number)])) ∧
    parse "\x7b\"a\": \x7b\"number\": null\x7d\x7d" = .ok (ofNamed [("a", .number)]) ∧
    ∃ refusal, parse "\x7b\"a\": \"number\"" = .error refusal := by
  refine ⟨(parse_agrees _).1 _ ?_, ?_, (parse_agrees _).2.2 ⟨.endInObject, ⟨1, 14⟩⟩ ?_⟩
  · cbv
  · have hdistinct : (Document.object [("a", .object [("number", .null)])]).NamesDistinct := by
      simp [Document.NamesDistinct, Document.MembersNamesDistinct]
    refine (parse_agrees _).2.1 _ (.object [("a", .object [("number", .null)])]) _ ?_ hdistinct
      ?_ ?_
    · cbv
    · cbv
    · cbv
  · cbv

/-- A member that is refused in a text is forgotten in a document if its name is repeated. -/
example :
    (∃ fault, parse "\x7b\"a\": 1, \"a\": \"number\"\x7d" = .error fault) ∧
    ∃ document,
      Document.parse "\x7b\"a\": 1, \"a\": \"number\"\x7d" = .ok document ∧
        Reader.expectations document = .ok (ofNamed [("a", .number)]) := by
  refine ⟨⟨⟨.expectedValue, ⟨1, 7⟩⟩, ?_⟩, .object [("a", .string "number")], ?_, ?_⟩
  · cbv
  · cbv
  · cbv

end Expectations
end DuckTyping
