import DuckTyping.Proofs.Conversion.Records
import DuckTyping.Proofs.Guard.Members
import DuckTyping.Proofs.Narrowing

/-!
# Narrowing to packages and labelled things

A document is narrowed to a shape by a check of tags and then by a conversion that looks closer.
Each document ends in one of three ways: it is narrowed, it passes the check and cannot be
converted, or it does not pass.  For the shape of packages, whose contract lists every field, and
for that of labelled things, whose contract lists one of two, the members of the document tell which
way it is.  Arrays of the fields could be converted, but do not get that far.

Main definitions:

- `Package.HeldBy`, `Package.Readable`, `Package.Unreadable`: what a document holds where it is
  narrowed to a given package, narrowed at all, or checked and not converted.
- `Labelled.HeldBy`, `Labelled.Readable`, `Labelled.Unreadable`: the same for labelled things.

Main results:

- `Package.ensure_eq_ok_iff`, `Package.ensure_conversion_iff`: the outcomes for packages.
- `Labelled.ensure_eq_ok_iff`, `Labelled.ensure_conversion_iff`: those for labelled things.
- `ensure_object_eq_of_lookups`: members that a shape does not know never matter.
- `ensure_outcomes`: the three outcomes for both shapes.
-/

namespace DuckTyping

/-! ## Three outcomes -/

section Outcomes

variable {δ α : Type} {shape : Shape α} {document : Document}

/-- What passes the check and is not narrowed cannot be converted. -/
theorem ensure_conversion_iff_check :
    (∃ error, (ensure shape document).result = .error (.conversion error)) ↔
      (Guard.check document shape.expectations).result = true ∧
        ¬∃ value, (ensure shape document).result = .ok value := by
  simp only [ensure_eq_guarded, guarded_eq_conversion_iff, guarded_eq_ok_iff]
  cases shape.read document <;> simp

/-- There is a mismatch exactly when the document is neither narrowed nor found inconvertible. -/
theorem ensure_mismatch_iff_otherwise :
    (ensure shape document).result = .error (.shapeMismatch shape.name) ↔
      (¬∃ value, (ensure shape document).result = .ok value) ∧
        ¬∃ error, (ensure shape document).result = .error (.conversion error) := by
  simp only [ensure_eq_guarded, guarded_eq_mismatch_iff, guarded_eq_ok_iff,
    guarded_eq_conversion_iff]
  cases (Guard.check document shape.expectations).result <;> cases shape.read document <;> simp

/-- What does not pass the check is a mismatch. -/
theorem ensure_mismatch_of_check_fails
    (h : (Guard.check document shape.expectations).result = false) :
    (ensure shape document).result = .error (.shapeMismatch shape.name) := by
  rw [ensure_eq_guarded, guarded_eq_mismatch_iff]
  exact ⟨h, rfl⟩

/-- Two objects in which the names of the contract and of the fields of a shape find the same are
narrowed alike, events included. -/
theorem ensure_object_eq_of_lookups {record : Record δ α} {entries : List (String × Kind)}
    {names : List String} (hread : shape.read = record.read)
    (hexpectations : shape.expectations = .ofNamed entries)
    (hfields : ∀ field ∈ record.fields, field.name ∈ names)
    (hentries : ∀ named ∈ entries, named.1 ∈ names) {members others : List (String × Document)}
    (hsorted : Entries.Sorted members) (hothers : Entries.Sorted others)
    (h : ∀ name ∈ names, Entries.find? name members = Entries.find? name others) :
    ensure shape (.object members) = ensure shape (.object others) := by
  have hcheck : Guard.check (Document.object members) shape.expectations =
      Guard.check (Document.object others) shape.expectations := by
    rw [hexpectations]
    apply Guard.check_object_eq_of_lookups
    intro named hnamed
    exact h named.1 (hentries named hnamed)
  have hrecord : shape.read (.object members) = shape.read (.object others) := by
    rw [hread]
    apply Record.read_eq_of_lookups hsorted hothers
    intro field hfield
    exact h field.name (hfields field hfield)
  rw [ensure_eq_guarded, ensure_eq_guarded, hcheck, hrecord]

end Outcomes

/-! ## Packages -/

namespace Package

/-- A document is an object that holds the fields of a package. -/
structure HeldBy (package : Package) (document : Document) : Prop where
  name : document.Holds "name" (.string package.name)
  version : document.Holds "version" (.string package.version)
  downloads : ∃ inRange,
    document.Holds "downloads" (.number (.integer package.downloads.toNat inRange))

/-- A document is an object with a name and a version that are strings, and with a number of
downloads that is an integer of 64 bits without sign. -/
structure Readable (document : Document) : Prop where
  name : ∃ text, document.Holds "name" (.string text)
  version : ∃ text, document.Holds "version" (.string text)
  downloads : ∃ number, document.Holds "downloads" (.number number) ∧
    number.IsIntegerWithin 0 0xFFFFFFFFFFFFFFFF

/-- A document is an object with a name and a version that are strings, and with a number of
downloads that is not an integer of 64 bits without sign. -/
structure Unreadable (document : Document) : Prop where
  name : ∃ text, document.Holds "name" (.string text)
  version : ∃ text, document.Holds "version" (.string text)
  downloads : ∃ number, document.Holds "downloads" (.number number) ∧
    ¬number.IsIntegerWithin 0 0xFFFFFFFFFFFFFFFF

variable {package : Package} {document : Document} {members : List (String × Document)}

/-- A package can be read from a document that holds one. -/
theorem readable_iff : Readable document ↔ ∃ package : Package, package.HeldBy document := by
  constructor
  · intro h
    rcases h with ⟨⟨name, hname⟩, ⟨version, hversion⟩, number, hnumber, hinteger⟩
    rcases WordRange.unsigned64.isIntegerWithin_iff.mp hinteger with ⟨downloads, inRange, rfl⟩
    exact ⟨⟨name, version, downloads⟩, hname, hversion, inRange, hnumber⟩
  · intro h
    rcases h with ⟨package, hname, hversion, inRange, hdownloads⟩
    have hinteger := WordRange.unsigned64.isIntegerWithin_iff.mpr ⟨package.downloads, inRange, rfl⟩
    exact ⟨⟨_, hname⟩, ⟨_, hversion⟩, _, hdownloads, hinteger⟩

/-- The check asks for three members by their kinds. -/
theorem check_iff (document : OrderedDocument) :
    (Guard.check document.content shape.expectations).result = true ↔
      (∃ text, document.content.Holds "name" (.string text)) ∧
        (∃ text, document.content.Holds "version" (.string text)) ∧
        ∃ number, document.content.Holds "downloads" (.number number) := by
  rw [shape, Guard.check_ofNamed_iff_holds document (by decide) (by decide)]
  simp only [List.forall_mem_cons, List.not_mem_nil, false_implies, implies_true, and_true,
    Kind.tag, Document.exists_holds_string_iff, Document.exists_holds_number_iff]

theorem check_array_fails (elements : List Document) :
    (Guard.check (Document.array elements) shape.expectations).result = false :=
  Guard.check_array_ofNamed_fails (by decide) (by decide) elements

/-- An array of the fields is read as a package. -/
theorem read_array_eq (package : Package) : ∃ inRange,
    shape.read (.array [.string package.name, .string package.version,
      .number (.integer package.downloads.toNat inRange)]) = .ok package := by
  have hbound := package.downloads.toNat_lt
  have inRange : -0x8000000000000000 ≤ (package.downloads.toNat : Int) ∧
      (package.downloads.toNat : Int) < 0x10000000000000000 := by omega
  have hdownloads : Reader.unsigned64 (.number (.integer package.downloads.toNat inRange)) =
      .ok package.downloads := Reader.unsigned64_eq_ok_iff.mpr ⟨inRange, rfl⟩
  refine ⟨inRange, ?_⟩
  simp only [shape, record, Record.read, Record.fillInOrder, Record.Field.of, Reader.string,
    hdownloads]
  rfl

/-- The fields are read in the order of their names. -/
theorem read_object_eq (hsorted : Entries.Sorted members) :
    record.read (.object members) = (do
      let downloads ← (Entries.find? "downloads" members).mapM Reader.unsigned64
      let name ← (Entries.find? "name" members).mapM Reader.string
      let version ← (Entries.find? "version" members).mapM Reader.string
      record.complete ⟨name, version, downloads⟩) := by
  have hnames : record.fieldNames = ["downloads", "name", "version"] := by decide
  rw [Record.read_object_eq_select hsorted, hnames, Record.read]
  rw [Record.fillByName_select_cons _ rfl, bind_assoc]
  apply bind_congr
  intro downloads
  rw [Record.fillByName_select_cons _ rfl, bind_assoc]
  apply bind_congr
  intro name
  rw [Record.fillByName_select_cons _ rfl, bind_assoc]
  apply bind_congr
  intro version
  cases downloads <;> cases name <;> cases version <;> rfl

theorem complete_eq_ok_iff {draft : Draft} :
    record.complete draft = .ok package ↔
      draft = ⟨some package.name, some package.version, some package.downloads⟩ := by
  rcases draft with ⟨name, version, downloads⟩
  simp only [record, bind_eq_ok_iff, Record.require_eq_ok_iff, Draft.mk.injEq]
  constructor
  · intro h
    rcases h with ⟨_, hname, _, hversion, _, hdownloads, hpackage⟩
    cases hpackage
    exact ⟨hname, hversion, hdownloads⟩
  · intro h
    rcases h with ⟨hname, hversion, hdownloads⟩
    exact ⟨_, hname, _, hversion, _, hdownloads, rfl⟩

/-- A package is read from the objects that hold it. -/
theorem read_object_eq_ok_iff (hsorted : Entries.Sorted members) :
    record.read (.object members) = .ok package ↔ package.HeldBy (.object members) := by
  rw [read_object_eq hsorted]
  simp only [bind_eq_ok_iff, complete_eq_ok_iff]
  constructor
  · intro h
    rcases h with ⟨downloads, hdownloads, name, hname, version, hversion, hdraft⟩
    cases hdraft
    rw [Record.mapM_string_eq_ok_iff] at hname hversion
    rw [Record.mapM_unsigned64_eq_ok_iff] at hdownloads
    constructor
    · rwa [Document.holds_object_iff hsorted]
    · rwa [Document.holds_object_iff hsorted]
    · simpa only [Document.holds_object_iff hsorted] using hdownloads
  · intro h
    rcases h with ⟨hname, hversion, hdownloads⟩
    simp only [Document.holds_object_iff hsorted] at hname hversion hdownloads
    exact ⟨_, Record.mapM_unsigned64_eq_ok_iff.mpr hdownloads, _,
      Record.mapM_string_eq_ok_iff.mpr hname, _, Record.mapM_string_eq_ok_iff.mpr hversion, rfl⟩

/-- A document is narrowed to the package that it holds. -/
theorem ensure_eq_ok_iff (document : OrderedDocument) :
    (ensure shape document.content).result = .ok package ↔ package.HeldBy document.content := by
  rw [ensure_eq_guarded, guarded_eq_ok_iff, check_iff document]
  rcases document with ⟨document, hwf⟩
  constructor
  · intro h
    rcases h with ⟨⟨⟨_, hname⟩, _⟩, hread⟩
    rcases Document.exists_object_of_holds hname with ⟨members, rfl⟩
    exact (read_object_eq_ok_iff hwf.1).mp hread
  · intro h
    rcases Document.exists_object_of_holds h.name with ⟨members, rfl⟩
    rcases readable_iff.mpr ⟨package, h⟩ with ⟨hname, hversion, number, hnumber, -⟩
    exact ⟨⟨hname, hversion, number, hnumber⟩, (read_object_eq_ok_iff hwf.1).mpr h⟩

/-- A document passes the check and cannot be converted exactly when its number of downloads is of
the wrong kind. -/
theorem ensure_conversion_iff (document : OrderedDocument) :
    (∃ error, (ensure shape document.content).result = .error (.conversion error)) ↔
      Unreadable document.content := by
  rw [ensure_conversion_iff_check, check_iff document]
  simp only [ensure_eq_ok_iff document, ← readable_iff]
  constructor
  · intro h
    rcases h with ⟨⟨hname, hversion, number, hnumber⟩, hreadable⟩
    have hinteger : ¬number.IsIntegerWithin 0 0xFFFFFFFFFFFFFFFF := fun h =>
      hreadable ⟨hname, hversion, number, hnumber, h⟩
    exact ⟨hname, hversion, number, hnumber, hinteger⟩
  · intro h
    rcases h with ⟨hname, hversion, number, hnumber, hinteger⟩
    refine ⟨⟨hname, hversion, number, hnumber⟩, ?_⟩
    intro hreadable
    rcases hreadable.downloads with ⟨other, hother, hwithin⟩
    have hsame := Document.number.inj (Document.Holds.unique document hnumber hother)
    rw [hsame] at hinteger
    contradiction

end Package

/-! ## Labelled things -/

namespace Labelled

/-- A document is an object that holds the fields of a labelled thing. -/
structure HeldBy (labelled : Labelled) (document : Document) : Prop where
  id : ∃ inRange, document.Holds "id" (.number (.integer labelled.id.toNat inRange))
  label : document.Holds "label" (.string labelled.label)

/-- A document is an object with an identifier that is an integer of 32 bits without sign, and with
a label that is a string. -/
structure Readable (document : Document) : Prop where
  id : ∃ number, document.Holds "id" (.number number) ∧ number.IsIntegerWithin 0 0xFFFFFFFF
  label : ∃ text, document.Holds "label" (.string text)

/-- A document is an object with an identifier that is a number, and either that number is not an
integer of 32 bits without sign or no label that is a string stands beside it. -/
def Unreadable (document : Document) : Prop :=
  ∃ number, document.Holds "id" (.number number) ∧
    (¬number.IsIntegerWithin 0 0xFFFFFFFF ∨ ¬∃ text, document.Holds "label" (.string text))

variable {labelled : Labelled} {document : Document} {members : List (String × Document)}

/-- A labelled thing can be read from a document that holds one. -/
theorem readable_iff : Readable document ↔ ∃ labelled : Labelled, labelled.HeldBy document := by
  constructor
  · intro h
    rcases h with ⟨⟨number, hnumber, hinteger⟩, label, hlabel⟩
    rcases WordRange.unsigned32.isIntegerWithin_iff.mp hinteger with ⟨id, inRange, rfl⟩
    exact ⟨⟨id, label⟩, ⟨inRange, hnumber⟩, hlabel⟩
  · intro h
    rcases h with ⟨labelled, ⟨inRange, hid⟩, hlabel⟩
    have hinteger := WordRange.unsigned32.isIntegerWithin_iff.mpr ⟨labelled.id, inRange, rfl⟩
    exact ⟨⟨_, hid, hinteger⟩, _, hlabel⟩

/-- The check asks for the identifier alone. -/
theorem check_iff (document : OrderedDocument) :
    (Guard.check document.content shape.expectations).result = true ↔
      ∃ number, document.content.Holds "id" (.number number) := by
  rw [shape, Guard.check_ofNamed_iff_holds document (by decide) (by decide)]
  simp only [List.forall_mem_cons, List.not_mem_nil, false_implies, implies_true, and_true,
    Kind.tag, Document.exists_holds_number_iff]

theorem check_array_fails (elements : List Document) :
    (Guard.check (Document.array elements) shape.expectations).result = false :=
  Guard.check_array_ofNamed_fails (by decide) (by decide) elements

/-- An array of the fields is read as a labelled thing. -/
theorem read_array_eq (labelled : Labelled) : ∃ inRange,
    shape.read (.array [.number (.integer labelled.id.toNat inRange),
      .string labelled.label]) = .ok labelled := by
  have hbound := labelled.id.toNat_lt
  have inRange : -0x8000000000000000 ≤ (labelled.id.toNat : Int) ∧
      (labelled.id.toNat : Int) < 0x10000000000000000 := by omega
  have hid : Reader.unsigned32 (.number (.integer labelled.id.toNat inRange)) =
      .ok labelled.id := Reader.unsigned32_eq_ok_iff.mpr ⟨inRange, rfl⟩
  refine ⟨inRange, ?_⟩
  simp only [shape, record, Record.read, Record.fillInOrder, Record.Field.of, Reader.string, hid]
  rfl

/-- The fields are read in the order of their names. -/
theorem read_object_eq (hsorted : Entries.Sorted members) :
    record.read (.object members) = (do
      let id ← (Entries.find? "id" members).mapM Reader.unsigned32
      let label ← (Entries.find? "label" members).mapM Reader.string
      record.complete ⟨id, label⟩) := by
  have hnames : record.fieldNames = ["id", "label"] := by decide
  rw [Record.read_object_eq_select hsorted, hnames, Record.read]
  rw [Record.fillByName_select_cons _ rfl, bind_assoc]
  apply bind_congr
  intro id
  rw [Record.fillByName_select_cons _ rfl, bind_assoc]
  apply bind_congr
  intro label
  cases id <;> cases label <;> rfl

theorem complete_eq_ok_iff {draft : Draft} :
    record.complete draft = .ok labelled ↔ draft = ⟨some labelled.id, some labelled.label⟩ := by
  rcases draft with ⟨id, label⟩
  simp only [record, bind_eq_ok_iff, Record.require_eq_ok_iff, Draft.mk.injEq]
  constructor
  · intro h
    rcases h with ⟨_, hid, _, hlabel, hlabelled⟩
    cases hlabelled
    exact ⟨hid, hlabel⟩
  · intro h
    rcases h with ⟨hid, hlabel⟩
    exact ⟨_, hid, _, hlabel, rfl⟩

/-- A labelled thing is read from the objects that hold it. -/
theorem read_object_eq_ok_iff (hsorted : Entries.Sorted members) :
    record.read (.object members) = .ok labelled ↔ labelled.HeldBy (.object members) := by
  rw [read_object_eq hsorted]
  simp only [bind_eq_ok_iff, complete_eq_ok_iff]
  constructor
  · intro h
    rcases h with ⟨id, hid, label, hlabel, hdraft⟩
    cases hdraft
    rw [Record.mapM_unsigned32_eq_ok_iff] at hid
    rw [Record.mapM_string_eq_ok_iff] at hlabel
    constructor
    · simpa only [Document.holds_object_iff hsorted] using hid
    · rwa [Document.holds_object_iff hsorted]
  · intro h
    rcases h with ⟨hid, hlabel⟩
    simp only [Document.holds_object_iff hsorted] at hid hlabel
    exact ⟨_, Record.mapM_unsigned32_eq_ok_iff.mpr hid, _,
      Record.mapM_string_eq_ok_iff.mpr hlabel, rfl⟩

/-- A document is narrowed to the labelled thing that it holds. -/
theorem ensure_eq_ok_iff (document : OrderedDocument) :
    (ensure shape document.content).result = .ok labelled ↔ labelled.HeldBy document.content := by
  rw [ensure_eq_guarded, guarded_eq_ok_iff, check_iff document]
  rcases document with ⟨document, hwf⟩
  constructor
  · intro h
    rcases h with ⟨⟨_, hid⟩, hread⟩
    rcases Document.exists_object_of_holds hid with ⟨members, rfl⟩
    exact (read_object_eq_ok_iff hwf.1).mp hread
  · intro h
    rcases Document.exists_object_of_holds h.label with ⟨members, rfl⟩
    rcases readable_iff.mpr ⟨labelled, h⟩ with ⟨⟨number, hnumber, -⟩, -⟩
    exact ⟨⟨number, hnumber⟩, (read_object_eq_ok_iff hwf.1).mpr h⟩

/-- A document passes the check and cannot be converted exactly when its identifier is a number of
the wrong kind or a label is missing. -/
theorem ensure_conversion_iff (document : OrderedDocument) :
    (∃ error, (ensure shape document.content).result = .error (.conversion error)) ↔
      Unreadable document.content := by
  rw [ensure_conversion_iff_check, check_iff document]
  simp only [ensure_eq_ok_iff document, ← readable_iff]
  constructor
  · intro h
    rcases h with ⟨⟨number, hnumber⟩, hreadable⟩
    refine ⟨number, hnumber, ?_⟩
    by_cases hinteger : number.IsIntegerWithin 0 0xFFFFFFFF
    · right
      intro hlabel
      exact hreadable ⟨⟨number, hnumber, hinteger⟩, hlabel⟩
    · left
      exact hinteger
  · intro h
    rcases h with ⟨number, hnumber, hwrong⟩
    refine ⟨⟨number, hnumber⟩, ?_⟩
    intro h
    rcases h with ⟨⟨other, hother, hwithin⟩, hlabel⟩
    have hsame := Document.number.inj (Document.Holds.unique document hnumber hother)
    rw [← hsame] at hwithin
    rcases hwrong with hinteger | hmissing
    · exact hinteger hwithin
    · exact hmissing hlabel

end Labelled

/-! ## Both shapes -/

/-- Each document is narrowed, inconvertible or a mismatch, for packages and for labelled things.

- It is narrowed exactly when it is an object that holds every field, to what it holds.
- It is inconvertible exactly when it holds what the contract asks for and not what the fields do.
- It is a mismatch in every other case, and every array is one, although the fields of either
  shape could be read from an array.
- Members that are no field never matter. -/
theorem ensure_outcomes :
    (∀ document : Document, document.WellFormed →
      (∀ package, (ensure Package.shape document).result = .ok package ↔
        package.HeldBy document) ∧
      ((∃ package, (ensure Package.shape document).result = .ok package) ↔
        Package.Readable document) ∧
      ((∃ error, (ensure Package.shape document).result = .error (.conversion error)) ↔
        Package.Unreadable document) ∧
      ((ensure Package.shape document).result = .error (.shapeMismatch Package.shape.name) ↔
        ¬Package.Readable document ∧ ¬Package.Unreadable document)) ∧
    (∀ document : Document, document.WellFormed →
      (∀ labelled, (ensure Labelled.shape document).result = .ok labelled ↔
        labelled.HeldBy document) ∧
      ((∃ labelled, (ensure Labelled.shape document).result = .ok labelled) ↔
        Labelled.Readable document) ∧
      ((∃ error, (ensure Labelled.shape document).result = .error (.conversion error)) ↔
        Labelled.Unreadable document) ∧
      ((ensure Labelled.shape document).result = .error (.shapeMismatch Labelled.shape.name) ↔
        ¬Labelled.Readable document ∧ ¬Labelled.Unreadable document)) ∧
    (∀ elements : List Document,
      (ensure Package.shape (.array elements)).result =
        .error (.shapeMismatch Package.shape.name) ∧
      (ensure Labelled.shape (.array elements)).result =
        .error (.shapeMismatch Labelled.shape.name)) ∧
    (∀ package : Package, ∃ inRange,
      Package.shape.read (.array [.string package.name, .string package.version,
        .number (.integer package.downloads.toNat inRange)]) = .ok package) ∧
    (∀ labelled : Labelled, ∃ inRange,
      Labelled.shape.read (.array [.number (.integer labelled.id.toNat inRange),
        .string labelled.label]) = .ok labelled) ∧
    (∀ members others : List (String × Document),
      (Document.object members).WellFormed → (Document.object others).WellFormed →
      ((∀ name ∈ ["name", "version", "downloads"],
          Entries.find? name members = Entries.find? name others) →
        ensure Package.shape (.object members) = ensure Package.shape (.object others)) ∧
      ((∀ name ∈ ["id", "label"],
          Entries.find? name members = Entries.find? name others) →
        ensure Labelled.shape (.object members) = ensure Labelled.shape (.object others))) := by
  refine ⟨?_, ?_, ?_, ?_, ?_, ?_⟩
  · intro document hwf
    have hok : (∃ package, (ensure Package.shape document).result = .ok package) ↔
        Package.Readable document := by
      simp only [Package.ensure_eq_ok_iff ⟨document, hwf⟩, Package.readable_iff]
    have hconversion := Package.ensure_conversion_iff ⟨document, hwf⟩
    refine ⟨fun _ => Package.ensure_eq_ok_iff ⟨document, hwf⟩, hok, hconversion, ?_⟩
    rw [ensure_mismatch_iff_otherwise, hok, hconversion]
  · intro document hwf
    have hok : (∃ labelled, (ensure Labelled.shape document).result = .ok labelled) ↔
        Labelled.Readable document := by
      simp only [Labelled.ensure_eq_ok_iff ⟨document, hwf⟩, Labelled.readable_iff]
    have hconversion := Labelled.ensure_conversion_iff ⟨document, hwf⟩
    refine ⟨fun _ => Labelled.ensure_eq_ok_iff ⟨document, hwf⟩, hok, hconversion, ?_⟩
    rw [ensure_mismatch_iff_otherwise, hok, hconversion]
  · intro elements
    exact ⟨ensure_mismatch_of_check_fails (Package.check_array_fails elements),
      ensure_mismatch_of_check_fails (Labelled.check_array_fails elements)⟩
  · exact Package.read_array_eq
  · exact Labelled.read_array_eq
  · intro members others hwf hothers
    rw [Document.WellFormed] at hwf hothers
    constructor
    · exact ensure_object_eq_of_lookups rfl rfl (by decide) (by decide) hwf.1 hothers.1
    · exact ensure_object_eq_of_lookups rfl rfl (by decide) (by decide) hwf.1 hothers.1

/-- The greatest number of downloads is read, a negative one is not.  A labelled thing with a member
that is no field is narrowed like the one without. -/
theorem ensure_outcomes_greatest :
    (ensure Package.shape (.object [("downloads",
          .number (.integer 0xFFFFFFFFFFFFFFFF (by decide))), ("name", .string "a"),
        ("version", .string "b")])).result = .ok ⟨"a", "b", 0xFFFFFFFFFFFFFFFF⟩ ∧
      (∃ error, (ensure Package.shape (.object [("downloads",
          .number (.integer (-1) (by decide))), ("name", .string "a"),
        ("version", .string "b")])).result = .error (.conversion error)) ∧
      (ensure Labelled.shape .null).result = .error (.shapeMismatch Labelled.shape.name) ∧
      ensure Labelled.shape
          (.object [("extra", .null), ("id", .number (.integer 1 (by decide)))]) =
        ensure Labelled.shape (.object [("id", .number (.integer 1 (by decide)))]) := by
  have hwf : ∀ downloads inRange, (Document.object [("downloads",
      .number (.integer downloads inRange)), ("name", .string "a"),
      ("version", .string "b")]).WellFormed := by
    intro downloads inRange
    refine ⟨?_, trivial, trivial, trivial, trivial⟩
    simp only [Entries.Sorted, List.pairwise_cons, List.forall_mem_cons, List.not_mem_nil,
      false_implies, implies_true, List.Pairwise.nil, and_true]
    decide
  rcases ensure_outcomes with ⟨hpackage, hlabelled, -, -, -, hmembers⟩
  refine ⟨?_, ?_, ?_, ?_⟩
  · apply ((hpackage _ (hwf _ _)).1 _).mpr
    exact ⟨⟨_, rfl, by simp⟩, ⟨_, rfl, by simp⟩, by decide, _, rfl, .head _⟩
  · apply (hpackage _ (hwf _ _)).2.2.1.mpr
    refine ⟨⟨"a", _, rfl, by simp⟩, ⟨"b", _, rfl, by simp⟩, _, ⟨_, rfl, .head _⟩, ?_⟩
    intro h
    rcases h with ⟨value, _, heq, hleast, _⟩
    cases heq
    omega
  · apply (hlabelled .null trivial).2.2.2.mpr
    constructor
    · intro h
      rcases h with ⟨⟨_, ⟨_, heq, _⟩, _⟩, _⟩
      contradiction
    · intro h
      rcases h with ⟨_, ⟨_, heq, _⟩, _⟩
      contradiction
  · apply (hmembers _ _ _ _).2
    · simp [Entries.find?_cons]
    · exact ⟨List.pairwise_pair.mpr (by decide), trivial, trivial, trivial⟩
    · exact ⟨List.pairwise_singleton _ _, trivial, trivial⟩

end DuckTyping
