import DuckTyping.Proofs.Conversion.Reading

/-!
# Contracts in canonical documents

A document as it was read may repeat names; its canonical form keeps the last member of each.  A
contract that is read from a document as written is read from the canonical form too, because of
several kinds under one name the last wins as well.  The converse needs that no name is repeated:
the canonical form forgets members that would have been refused.

Main definitions:

- `Document.NamesDistinct`: no object repeats a name, at any depth.
- `Expectations.namedMembers`, `Expectations.namedObject`: an object that has a member for each
  listed name.

Main results:

- `Expectations.get?_ofNamed_name`: a contract holds under a name the last kind given for it.
- `Expectations.find?_namedMembers`, `Expectations.sorted_namedMembers`: an object that has a member
  for each listed name has those of the contract.
- `Reader.expectations_canonical`, `Reader.expectations_of_canonical`: both directions.
-/

namespace DuckTyping

/-! ## Repeated names -/

namespace Document

mutual

/-- No object repeats a name. -/
def NamesDistinct : Document → Prop
  | array elements => ElementsNamesDistinct elements
  | object members => (members.map Prod.fst).Nodup ∧ MembersNamesDistinct members
  | _ => True

/-- No object in an element repeats a name. -/
def ElementsNamesDistinct : List Document → Prop
  | [] => True
  | element :: rest => element.NamesDistinct ∧ ElementsNamesDistinct rest

/-- No object in a member repeats a name. -/
def MembersNamesDistinct : List (String × Document) → Prop
  | [] => True
  | (_, document) :: rest => document.NamesDistinct ∧ MembersNamesDistinct rest

end

theorem membersNamesDistinct_iff {members : List (String × Document)} :
    MembersNamesDistinct members ↔ ∀ entry ∈ members, entry.2.NamesDistinct := by
  induction members with
  | nil => simp [MembersNamesDistinct]
  | cons entry rest ih =>
    rcases entry with ⟨name, document⟩
    simp [MembersNamesDistinct, ih]

theorem map_fst_canonicalMembers (members : List (String × Document)) :
    (canonicalMembers members).map Prod.fst = members.map Prod.fst := by
  rw [canonicalMembers_eq_map, List.map_map]
  rfl

theorem canonical_eq_null_iff {document : Document} :
    document.canonical = null ↔ document = null := by
  cases document <;> simp [canonical]

/-- Without repeated names every member survives in the canonical form. -/
theorem mem_ofList_canonicalMembers {members : List (String × Document)}
    (h : (members.map Prod.fst).Nodup) {entry : String × Document} (hentry : entry ∈ members) :
    (entry.1, entry.2.canonical) ∈ Entries.ofList (canonicalMembers members) := by
  have hnodup : ((canonicalMembers members).map Prod.fst).Nodup := by
    rwa [map_fst_canonicalMembers]
  rw [Entries.mem_ofList_iff hnodup, canonicalMembers_eq_map]
  exact List.mem_map_of_mem hentry

end Document

/-! ## Names of a contract -/

namespace Expectations

theorem find?_map_name {α : Type} (name : String) (entries : List (String × α)) :
    Entries.find? (PropertyKey.name name) (entries.map fun entry => (.name entry.1, entry.2)) =
      Entries.find? name entries := by
  induction entries with
  | nil => rfl
  | cons entry rest ih =>
    by_cases h : entry.1 = name <;> simp [Entries.find?_cons, h, ih]

theorem find?_map_symbol {α : Type} (id : SymbolId) (entries : List (String × α)) :
    Entries.find? (PropertyKey.symbol id) (entries.map fun entry => (.name entry.1, entry.2)) =
      none := by
  induction entries with
  | nil => rfl
  | cons entry rest ih => simp [Entries.find?_cons, ih]

/-- A contract holds under a name the last kind given for it. -/
theorem get?_ofNamed_name (entries : List (String × Kind)) (name : String) :
    (ofNamed entries).get? (.name name) = Entries.find? name entries.reverse := by
  rw [ofNamed, OrderedMap.get?_ofList, ← List.map_reverse, find?_map_name]

/-- A contract that is given by names lists no symbol. -/
theorem get?_ofNamed_symbol (entries : List (String × Kind)) (id : SymbolId) :
    (ofNamed entries).get? (.symbol id) = none := by
  rw [ofNamed, OrderedMap.get?_ofList, ← List.map_reverse, find?_map_symbol]

/-- Overridden kinds play no part in a contract. -/
theorem ofNamed_ofList (entries : List (String × Kind)) :
    ofNamed (Entries.ofList entries) = ofNamed entries := by
  apply OrderedMap.ext
  intro key
  cases key with
  | symbol id => rw [get?_ofNamed_symbol, get?_ofNamed_symbol]
  | name name =>
    have hnodup := (Entries.sorted_ofList entries).nodup_keys
    rw [get?_ofNamed_name, get?_ofNamed_name, Entries.find?_reverse_of_nodup hnodup,
      Entries.find?_ofList]

variable {α : Type}

/-- The members of an object that has one for each listed name; listed symbols are left out. -/
def namedMembers (form : Kind → α) (entries : List (PropertyKey × Kind)) : List (String × α) :=
  entries.filterMap fun entry => entry.1.asName?.map fun name => (name, form entry.2)

theorem find?_namedMembers (form : Kind → α) (name : String)
    (entries : List (PropertyKey × Kind)) :
    Entries.find? name (namedMembers form entries) =
      (Entries.find? (.name name) entries).map form := by
  induction entries with
  | nil => rfl
  | cons entry rest ih =>
    rcases entry with ⟨key, kind⟩
    cases key with
    | symbol id =>
      have hstep : namedMembers form ((.symbol id, kind) :: rest) = namedMembers form rest := rfl
      rw [hstep, ih, Entries.find?_cons, if_neg (by simp)]
    | name other =>
      have hstep : namedMembers form ((.name other, kind) :: rest) =
          (other, form kind) :: namedMembers form rest := rfl
      rw [hstep, Entries.find?_cons, Entries.find?_cons, ih]
      by_cases h : other = name
      · simp [h]
      · simp [h]

/-- Names are ordered as the keys that they are. -/
theorem sorted_namedMembers (form : Kind → α) (expected : Expectations) :
    Entries.Sorted (namedMembers form expected.entries) := by
  apply List.Pairwise.filterMap _ _ expected.sorted
  rintro ⟨key, kind⟩ ⟨other, otherKind⟩ hlt member hmember otherMember hother
  cases key with
  | symbol id => contradiction
  | name name =>
    cases other with
    | symbol id => contradiction
    | name otherName =>
      cases hmember
      cases hother
      exact hlt

theorem exists_kind_of_mem_namedMembers {form : Kind → α} {entries : List (PropertyKey × Kind)}
    {member : String × α} (h : member ∈ namedMembers form entries) :
    ∃ kind, member.2 = form kind := by
  rcases List.mem_filterMap.mp h with ⟨entry, -, hentry⟩
  rcases Option.map_eq_some_iff.mp hentry with ⟨name, -, rfl⟩
  exact ⟨entry.2, rfl⟩

/-- The object that has a member for each listed name. -/
def namedObject (form : Kind → OrderedDocument) (expected : Expectations) : OrderedDocument where
  content := .object (namedMembers (fun kind => (form kind).content) expected.entries)
  wellFormed := Document.wellFormed_object_iff.mpr <| by
    refine ⟨sorted_namedMembers _ expected, ?_⟩
    intro member hmember
    rcases exists_kind_of_mem_namedMembers hmember with ⟨kind, hcontent⟩
    rw [hcontent]
    exact (form kind).wellFormed

end Expectations

/-! ## Reading -/

namespace Reader

theorem kind_canonical {document : Document} {kind : Kind}
    (h : Reader.kind document = .ok kind) : Reader.kind document.canonical = .ok kind := by
  rw [kind_eq_ok_iff] at h ⊢
  rcases h with rfl | rfl
  · left
    rfl
  · right
    rfl

theorem kind_of_canonical {document : Document} {kind : Kind} (hdistinct : document.NamesDistinct)
    (h : Reader.kind document.canonical = .ok kind) : Reader.kind document = .ok kind := by
  rw [kind_eq_ok_iff] at h ⊢
  cases document with
  | null | bool _ | number _ | array _ => simp [Document.canonical] at h
  | string text => simpa [Document.canonical] using h
  | object members =>
    right
    have hlist : Entries.ofList (Document.canonicalMembers members) = [(kind.name, .null)] := by
      simpa [Document.canonical] using h
    rw [Document.NamesDistinct] at hdistinct
    -- Every member survives in the canonical form, and there is only one to be.
    have hmember : ∀ entry ∈ members, entry.1 = kind.name ∧ entry.2 = .null := by
      intro entry hentry
      have hmem := Document.mem_ofList_canonicalMembers hdistinct.1 hentry
      rw [hlist, List.mem_singleton, Prod.mk.injEq] at hmem
      exact ⟨hmem.1, Document.canonical_eq_null_iff.mp hmem.2⟩
    rcases members with _ | ⟨first, _ | ⟨second, rest⟩⟩
    · simp [Document.canonicalMembers, Entries.ofList, Entries.extend] at hlist
    · have hfirst := hmember first (by simp)
      rw [← hfirst.1, ← hfirst.2]
    · have hfirst := hmember first (by simp)
      have hsecond := hmember second (by simp)
      have hnodup := hdistinct.1
      simp [hfirst.1, hsecond.1] at hnodup

/-- A contract that is read from a document as written is read from its canonical form. -/
theorem expectations_canonical {written : Document} {expected : Expectations}
    (h : Reader.expectations written = .ok expected) :
    Reader.expectations written.canonical = .ok expected := by
  rcases expectations_eq_ok_iff.mp h with ⟨members, entries, rfl, hread, rfl⟩
  have hcanonical : List.Forall₂
      (Entries.Related fun document kind => Reader.kind document = .ok kind)
      (Document.canonicalMembers members) entries := by
    rw [Document.canonicalMembers_eq_map, List.forall₂_map_left_iff]
    exact (eachMember_eq_ok_iff.mp hread).imp fun _ _ hentry =>
      ⟨hentry.1, kind_canonical hentry.2⟩
  rw [Document.canonical, expectations_eq_ok_iff]
  exact ⟨_, Entries.ofList entries, rfl,
    eachMember_eq_ok_iff.mpr (Entries.forall₂_ofList hcanonical),
    Expectations.ofNamed_ofList entries⟩

/-- A contract that is read from the canonical form of a document without repeated names is read
from the document as written. -/
theorem expectations_of_canonical {written : Document} {expected : Expectations}
    (hdistinct : written.NamesDistinct)
    (h : Reader.expectations written.canonical = .ok expected) :
    Reader.expectations written = .ok expected := by
  cases written with
  | null | bool _ | number _ | string _ | array _ =>
    simp [Document.canonical, Reader.expectations, refuse] at h
  | object members =>
    have hcanonical := h
    rw [Document.canonical, expectations_eq_ok_iff] at h
    rcases h with ⟨_, entries, hobject, hread, -⟩
    rw [Document.object.injEq] at hobject
    subst hobject
    rw [Document.NamesDistinct, Document.membersNamesDistinct_iff] at hdistinct
    have hmembers : ∀ member ∈ members, ∃ kind, Reader.kind member.2 = .ok kind := by
      intro member hmember
      have hmem := Document.mem_ofList_canonicalMembers hdistinct.1 hmember
      rcases exists_eachMember_eq_ok_iff.mp ⟨entries, hread⟩ _ hmem with ⟨kind, hkind⟩
      exact ⟨kind, kind_of_canonical (hdistinct.2 member hmember) hkind⟩
    rcases exists_eachMember_eq_ok_iff.mpr hmembers with ⟨entries, hentries⟩
    have hwritten : Reader.expectations (.object members) = .ok (Expectations.ofNamed entries) :=
      expectations_eq_ok_iff.mpr ⟨members, entries, rfl, hentries, rfl⟩
    -- What is read from the document as written is read from its canonical form.
    rw [expectations_canonical hwritten] at hcanonical
    rw [hwritten, hcanonical]

end Reader
end DuckTyping
