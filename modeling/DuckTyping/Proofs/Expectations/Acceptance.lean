import DuckTyping.Proofs.Expectations.Canonical
import DuckTyping.Proofs.Text.ByteOrder

/-!
# The documents of contracts

A contract is read from an object whose members spell kinds, each by its name or by an object that
is tagged with its name.  What is read lists the names of the object, and every contract without
symbols is read from some object.  When members do not spell a kind, the one with the least name
says what is wrong; the others may be wrong in other ways.

Main definitions:

- `Document.SpellsKind`: a document spells a kind, in one of two ways.
- `Expectations.GivenBy`: a contract lists what the members of an object give.
- `Expectations.toDocument`: the object that gives its kind to each name of a contract.

Main results:

- `Reader.expectations_eq_ok_iff_givenBy`: what is read from an object is what its members give.
- `Reader.expectations_eq_error_iff_least`: the member with the least name among those that spell no
  kind causes the error.
- `Reader.expectations_accepts_exactly`: both together, for all documents.
-/

namespace DuckTyping

/-! ## Spelling a kind -/

/-- A document spells a kind by its name, or by an object whose only member has that name and holds
null. -/
inductive Document.SpellsKind : Document → Kind → Prop where
  | name {text : String} {kind : Kind} (named : Kind.ofName text = .ok kind) :
      SpellsKind (string text) kind
  | tagged {text : String} {kind : Kind} (named : Kind.ofName text = .ok kind) :
      SpellsKind (object [(text, null)]) kind

/-- A kind is read from the documents that spell it. -/
theorem Reader.kind_eq_ok_iff_spellsKind {document : Document} {kind : Kind} :
    Reader.kind document = .ok kind ↔ document.SpellsKind kind := by
  rw [kind_eq_ok_iff]
  constructor
  · intro h
    have hnamed := Kind.ofName_name kind
    rcases h with rfl | rfl
    · exact .name hnamed
    · exact .tagged hnamed
  · intro h
    cases h with
    | name named =>
      left
      rw [Kind.name_of_ofName_eq_ok named]
    | tagged named =>
      right
      rw [Kind.name_of_ofName_eq_ok named]

/-! ## What an object gives -/

/-- A contract lists exactly what the members of an object give: each of them spells a kind, which
is listed under its name, and nothing else is listed. -/
structure Expectations.GivenBy (expected : Expectations) (members : List (String × Document)) :
    Prop where
  spelled : ∀ member ∈ members, ∃ kind, member.2.SpellsKind kind
  name : ∀ name kind, expected.get? (.name name) = some kind ↔
    ∃ content, (name, content) ∈ members ∧ content.SpellsKind kind
  symbol : ∀ id, expected.get? (.symbol id) = none

/-- An object gives one contract. -/
theorem Expectations.GivenBy.unique {expected other : Expectations}
    {members : List (String × Document)} (h : expected.GivenBy members)
    (hother : other.GivenBy members) : expected = other := by
  apply OrderedMap.ext
  intro key
  cases key with
  | symbol id => rw [h.symbol id, hother.symbol id]
  | name name =>
    apply Option.ext
    intro kind
    rw [h.name name kind, hother.name name kind]

namespace Reader

variable {members : List (String × Document)}

/-- What is read from the members of an object is what they give. -/
theorem givenBy_ofNamed (hsorted : Entries.Sorted members) {entries : List (String × Kind)}
    (hread : eachMember Reader.kind members = .ok entries) :
    (Expectations.ofNamed entries).GivenBy members where
  spelled := by
    intro member hmember
    obtain ⟨kind, hkind⟩ := exists_eachMember_eq_ok_iff.mp ⟨entries, hread⟩ member hmember
    exact ⟨kind, kind_eq_ok_iff_spellsKind.mp hkind⟩
  name := by
    intro name kind
    have hnodup : (entries.map Prod.fst).Nodup := by
      rw [← Entries.map_fst_eq_of_forall₂ (eachMember_eq_ok_iff.mp hread)]
      exact hsorted.nodup_keys
    rw [Expectations.get?_ofNamed_name, Entries.find?_reverse_of_nodup hnodup,
      Entries.find?_eq_some_iff_of_nodup hnodup, mem_iff_of_eachMember hread]
    simp only [kind_eq_ok_iff_spellsKind]
  symbol := Expectations.get?_ofNamed_symbol entries

/-- A contract is read from an object exactly when the object gives it. -/
theorem expectations_eq_ok_iff_givenBy (hsorted : Entries.Sorted members)
    {expected : Expectations} :
    Reader.expectations (.object members) = .ok expected ↔ expected.GivenBy members := by
  constructor
  · intro h
    obtain ⟨_, entries, hobject, hread, rfl⟩ := expectations_eq_ok_iff.mp h
    rw [Document.object.injEq] at hobject
    subst hobject
    exact givenBy_ofNamed hsorted hread
  · intro h
    have hmembers : ∀ member ∈ members, ∃ kind, Reader.kind member.2 = .ok kind := by
      intro member hmember
      obtain ⟨kind, hkind⟩ := h.spelled member hmember
      exact ⟨kind, kind_eq_ok_iff_spellsKind.mpr hkind⟩
    obtain ⟨entries, hread⟩ := exists_eachMember_eq_ok_iff.mpr hmembers
    have hunique := (givenBy_ofNamed hsorted hread).unique h
    exact expectations_eq_ok_iff.mpr ⟨members, entries, rfl, hread, hunique⟩

/-- An object is read as a contract exactly when each of its members spells a kind. -/
theorem exists_expectations_eq_ok_iff :
    (∃ expected, Reader.expectations (.object members) = .ok expected) ↔
      ∀ member ∈ members, ∃ kind, member.2.SpellsKind kind := by
  simp only [← kind_eq_ok_iff_spellsKind, ← exists_eachMember_eq_ok_iff, Reader.expectations,
    map_eq_ok_iff]
  constructor
  · intro h
    rcases h with ⟨_, entries, hread, _⟩
    exact ⟨entries, hread⟩
  · intro h
    rcases h with ⟨entries, hread⟩
    exact ⟨_, entries, hread, rfl⟩

/-- An object is refused because of the member with the least name among those that spell no kind,
with the error of what that member holds. -/
theorem expectations_eq_error_iff_least (hsorted : Entries.Sorted members)
    {error : ConversionError} :
    Reader.expectations (.object members) = .error error ↔
      ∃ name content, (name, content) ∈ members ∧ Reader.kind content = .error error ∧
        ∀ other ∈ members, Text.utf8 other.1 < Text.utf8 name →
          ∃ kind, other.2.SpellsKind kind := by
  rw [Reader.expectations, map_eq_error_iff, eachMember_eq_error_iff]
  simp only [kind_eq_ok_iff_spellsKind, Text.utf8_lt_iff]
  constructor
  · intro h
    rcases h with ⟨before, member, after, hsplit, hbefore, herror⟩
    subst hsplit
    refine ⟨member.1, member.2, by simp, herror, ?_⟩
    intro other hother hlt
    exact hbefore other (hsorted.mem_before_iff.mpr ⟨hother, hlt⟩)
  · intro h
    rcases h with ⟨name, content, hmember, herror, hleast⟩
    obtain ⟨before, after, rfl⟩ := List.append_of_mem hmember
    refine ⟨before, (name, content), after, rfl, ?_, herror⟩
    intro earlier hearlier
    obtain ⟨hmem, hlt⟩ := hsorted.mem_before_iff.mp hearlier
    exact hleast earlier hmem hlt

end Reader

/-! ## Documents of contracts -/

namespace Expectations

/-- The object that gives its kind to each name of a contract. -/
def toDocument (expected : Expectations) : Document :=
  .object (namedMembers (fun kind => .string kind.name) expected.entries)

theorem toDocument_wellFormed (expected : Expectations) : expected.toDocument.WellFormed :=
  (namedObject (fun kind => ⟨.string kind.name, trivial⟩) expected).wellFormed

/-- A contract without symbols is given by the object of its names. -/
theorem givenBy_namedMembers {expected : Expectations}
    (hnames : ∀ id, expected.get? (.symbol id) = none) :
    expected.GivenBy (namedMembers (fun kind => .string kind.name) expected.entries) where
  spelled := by
    intro member hmember
    obtain ⟨kind, hcontent⟩ := exists_kind_of_mem_namedMembers hmember
    rw [hcontent]
    exact ⟨kind, .name (Kind.ofName_name kind)⟩
  name := by
    intro name kind
    have hfound := find?_namedMembers (fun kind => Document.string kind.name) name expected.entries
    have hsorted := sorted_namedMembers (fun kind => Document.string kind.name) expected
    simp only [← hsorted.find?_eq_some_iff, hfound, Option.map_eq_some_iff]
    constructor
    · intro hlisted
      exact ⟨_, ⟨kind, hlisted, rfl⟩, .name (Kind.ofName_name kind)⟩
    · intro h
      rcases h with ⟨_, ⟨found, hlisted, hcontent⟩, hspelled⟩
      subst hcontent
      cases hspelled with
      | name named =>
        rw [Kind.ofName_name, Except.ok.injEq] at named
        subst named
        exact hlisted
  symbol := hnames

/-- A contract without symbols is read back from the object of its names. -/
theorem expectations_toDocument {expected : Expectations}
    (hnames : ∀ id, expected.get? (.symbol id) = none) :
    Reader.expectations expected.toDocument = .ok expected :=
  (Reader.expectations_eq_ok_iff_givenBy (sorted_namedMembers _ expected)).mpr
    (givenBy_namedMembers hnames)

end Expectations

/-! ## All documents -/

namespace Reader

/-- A contract is read from a document exactly when the document is an object whose members give it,
and some contract is exactly when the document is an object whose members all spell a kind.

- An object that is refused is refused with the error of what one member holds by itself, the member
  with the least name among those that spell no kind.
- A contract that lists only names is read back from the object that gives each name the name of its
  kind. -/
theorem expectations_accepts_exactly {document : Document} (hdocument : document.WellFormed) :
    (∀ expected, Reader.expectations document = .ok expected ↔
      ∃ members, document = .object members ∧ expected.GivenBy members) ∧
    ((∃ expected, Reader.expectations document = .ok expected) ↔
      ∃ members, document = .object members ∧
        ∀ member ∈ members, ∃ kind, member.2.SpellsKind kind) ∧
    (∀ members error, document = .object members →
      (Reader.expectations document = .error error ↔
        ∃ name content, (name, content) ∈ members ∧ Reader.kind content = .error error ∧
          ∀ other ∈ members, Text.utf8 other.1 < Text.utf8 name →
            ∃ kind, other.2.SpellsKind kind)) ∧
    (∀ expected : Expectations,
      (∀ key kind, expected.get? key = some kind → ∃ name, key = .name name) →
        expected.toDocument.WellFormed ∧
          Reader.expectations expected.toDocument = .ok expected) := by
  have hnames : ∀ expected : Expectations,
      (∀ key kind, expected.get? key = some kind → ∃ name, key = .name name) →
        Reader.expectations expected.toDocument = .ok expected := by
    intro expected hlisted
    apply Expectations.expectations_toDocument
    intro id
    rw [Option.eq_none_iff_forall_not_mem]
    intro kind hkind
    obtain ⟨name, hname⟩ := hlisted (.symbol id) kind hkind
    contradiction
  cases document with
  | null | bool _ | number _ | string _ | array _ =>
    refine ⟨?_, ?_, ?_, fun expected hlisted =>
      ⟨expected.toDocument_wellFormed, hnames expected hlisted⟩⟩
    all_goals simp [Reader.expectations, refuse]
  | object members =>
    have hsorted : Entries.Sorted members := hdocument.1
    refine ⟨?_, ?_, ?_, fun expected hlisted =>
      ⟨expected.toDocument_wellFormed, hnames expected hlisted⟩⟩
    · intro expected
      rw [expectations_eq_ok_iff_givenBy hsorted]
      simp
    · rw [exists_expectations_eq_ok_iff]
      simp
    · intro _ error hobject
      rw [Document.object.injEq] at hobject
      subst hobject
      exact expectations_eq_error_iff_least hsorted

/-- Names and tagged objects may stand side by side.  Of two members that spell no kind the first
one counts, and a contract for a name is read back. -/
theorem expectations_accepts_exactly_null :
    (∃ expected, Reader.expectations
      (.object [("a", .object [("bigint", .null)]), ("b", .string "string")]) = .ok expected) ∧
    Reader.expectations (.object [("a", .null), ("b", .string "boolean")]) =
      .error (.invalidType .null "string or map") ∧
    Reader.expectations (Expectations.toDocument (.ofList [(.name "a", .bigint)])) =
      .ok (.ofList [(.name "a", .bigint)]) := by
  have haccepted : Document.WellFormed
      (.object [("a", .object [("bigint", .null)]), ("b", .string "string")]) :=
    ⟨List.pairwise_pair.mpr (by decide), ⟨List.pairwise_singleton _ _, trivial, trivial⟩,
      trivial, trivial⟩
  have hrefused : Document.WellFormed (.object [("a", .null), ("b", .string "boolean")]) :=
    ⟨List.pairwise_pair.mpr (by decide), trivial, trivial, trivial⟩
  refine ⟨?_, ?_, ?_⟩
  · apply (expectations_accepts_exactly haccepted).2.1.mpr
    refine ⟨_, rfl, ?_⟩
    intro member hmember
    simp only [List.mem_cons, List.not_mem_nil, or_false] at hmember
    rcases hmember with rfl | rfl
    · exact ⟨.bigint, .tagged rfl⟩
    · exact ⟨.string, .name rfl⟩
  · apply ((expectations_accepts_exactly hrefused).2.2.1 _ _ rfl).mpr
    refine ⟨"a", .null, by simp, rfl, ?_⟩
    intro other hother hless
    simp only [List.mem_cons, List.not_mem_nil, or_false] at hother
    rcases hother with rfl | rfl
    · exact absurd hless (List.lt_irrefl _)
    · exact absurd hless (by decide)
  · apply ((expectations_accepts_exactly haccepted).2.2.2 _ _).2
    intro key kind hlisted
    have hentries : (OrderedMap.ofList [(PropertyKey.name "a", Kind.bigint)]).entries =
        [(.name "a", .bigint)] := rfl
    rw [OrderedMap.get?_eq_some_iff, hentries, List.mem_singleton, Prod.mk.injEq] at hlisted
    exact ⟨"a", hlisted.1⟩

end Reader
end DuckTyping
