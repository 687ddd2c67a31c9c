import DuckTyping.Proofs.Guard.Diagnosis

/-!
# Checks against extended contracts

A contract that is extended by another lists what the other lists, and of its own entries those
whose keys the other does not list.  So an entry that is replaced no longer counts.  Where both
contracts list the same kind under every key that they share, nothing is replaced: the extended
contract asks for what both ask, and of the mismatches with the two it tells the one with the
smaller key.

Main definitions:

- `Expectations.Agree`: two contracts list the same kind under every key that both list.

Main results:

- `Guard.firstMismatch?_of_subset`, `Guard.firstMismatch?_le_of_subset`: the first mismatch with a
  contract and that with a part of it.
- `Guard.check_extend_iff`, `Guard.check_extend_of_agree`: verdicts on extended contracts.
- `Guard.check_extended_contract`: verdicts and events on extended contracts.
-/

namespace DuckTyping

/-! ## Extended contracts -/

namespace Expectations

variable {first second : Expectations} {key : PropertyKey} {kind : Kind}

/-- An extended contract lists what the second lists, and what the first lists under other keys. -/
theorem get?_extend_eq_some_iff :
    (first.extend second.entries).get? key = some kind ↔
      second.get? key = some kind ∨ second.get? key = none ∧ first.get? key = some kind := by
  rw [OrderedMap.get?_extend_entries, Option.or_eq_some_iff]

/-- Two contracts list the same kind under every key that both list. -/
def Agree (first second : Expectations) : Prop :=
  ∀ key kind asked, first.get? key = some kind → second.get? key = some asked → kind = asked

/-- A contract that is extended by one that agrees with it lists what either of them lists. -/
theorem Agree.get?_extend_eq_some_iff (h : first.Agree second) :
    (first.extend second.entries).get? key = some kind ↔
      first.get? key = some kind ∨ second.get? key = some kind := by
  rw [Expectations.get?_extend_eq_some_iff]
  constructor
  · rintro (hsecond | ⟨-, hfirst⟩)
    · exact Or.inr hsecond
    · exact Or.inl hfirst
  · rintro (hfirst | hsecond)
    · cases hlisted : second.get? key with
      | none => exact Or.inr ⟨rfl, hfirst⟩
      | some asked =>
        have heq : kind = asked := h key kind asked hfirst hlisted
        exact Or.inl (congrArg some heq.symm)
    · exact Or.inl hsecond

theorem Agree.first_subset_extend (h : first.Agree second) :
    first.entries ⊆ (first.extend second.entries).entries := by
  intro entry hentry
  rw [← OrderedMap.get?_eq_some_iff] at hentry ⊢
  exact h.get?_extend_eq_some_iff.mpr (Or.inl hentry)

theorem Agree.second_subset_extend (h : first.Agree second) :
    second.entries ⊆ (first.extend second.entries).entries := by
  intro entry hentry
  rw [← OrderedMap.get?_eq_some_iff] at hentry ⊢
  exact h.get?_extend_eq_some_iff.mpr (Or.inr hentry)

end Expectations

namespace Guard

variable {α : Type} [Reflection α] {value : α}

/-! ## Mismatches with a part of a contract -/

section Parts

variable {part whole : Expectations} (hsubset : part.entries ⊆ whole.entries)
  {mismatch other : Mismatch}

include hsubset

theorem get?_of_subset {key : PropertyKey} {kind : Kind} (hlisted : part.get? key = some kind) :
    whole.get? key = some kind := by
  rw [OrderedMap.get?_eq_some_iff] at hlisted ⊢
  exact hsubset hlisted

/-- The first mismatch with a contract is the first one with every part that lists its entry. -/
theorem firstMismatch?_of_subset (hwhole : firstMismatch? value whole = some mismatch)
    (hlisted : part.get? mismatch.key = some mismatch.expected) :
    firstMismatch? value part = some mismatch := by
  rw [firstMismatch?_eq_some_iff] at hwhole ⊢
  rcases hwhole with ⟨-, hfound, hne, hsmaller⟩
  refine ⟨hlisted, hfound, hne, ?_⟩
  intro key kind hkind hlt
  exact hsmaller key kind (get?_of_subset hsubset hkind) hlt

/-- The first mismatch with a part of a contract is the first one with the contract, or it has a
greater key. -/
theorem firstMismatch?_le_of_subset (hwhole : firstMismatch? value whole = some mismatch)
    (hpart : firstMismatch? value part = some other) :
    other = mismatch ∨ compare mismatch.key other.key = .lt := by
  rcases firstMismatch?_eq_some_iff.mp hwhole with ⟨hlisted, hfound, -, hsmaller⟩
  rcases firstMismatch?_eq_some_iff.mp hpart with ⟨hother, hotherFound, hne, -⟩
  have hotherListed := get?_of_subset hsubset hother
  have hnotLess : compare other.key mismatch.key ≠ .lt := by
    intro hlt
    have htag := hsmaller other.key other.expected hotherListed hlt
    exact hne (hotherFound.trans htag)
  rcases eq_or_compare_lt hnotLess with hkey | hlt
  · left
    rw [hkey, hotherListed, Option.some.injEq] at hlisted
    rw [hkey, ← hotherFound] at hfound
    cases mismatch
    cases other
    rw [Mismatch.mk.injEq]
    exact ⟨hkey.symm, hlisted, hfound.symm⟩
  · exact Or.inr hlt

end Parts

/-! ## Verdicts -/

variable {first second : Expectations}

/-- A value passes against an extended contract exactly when it passes against the second and has
what the first lists under other keys. -/
theorem check_extend_iff :
    (check value (first.extend second.entries)).result = true ↔
      (check value second).result = true ∧
        ∀ key kind, first.get? key = some kind → second.get? key = none →
          Reflection.propertyTag value key = kind.tag := by
  simp only [check_result_iff, Expectations.get?_extend_eq_some_iff]
  constructor
  · rintro ⟨hobject, htags⟩
    refine ⟨⟨hobject, ?_⟩, ?_⟩
    · intro key kind hsecond
      exact htags key kind (Or.inl hsecond)
    · intro key kind hfirst hunlisted
      exact htags key kind (Or.inr ⟨hunlisted, hfirst⟩)
  · rintro ⟨⟨hobject, hsecond⟩, hfirst⟩
    refine ⟨hobject, ?_⟩
    rintro key kind (hlisted | ⟨hunlisted, hlisted⟩)
    · exact hsecond key kind hlisted
    · exact hfirst key kind hlisted hunlisted

/-- Against a contract that is extended by one that agrees with it, the values pass that pass
against both. -/
theorem check_extend_of_agree (h : first.Agree second) :
    (check value (first.extend second.entries)).result =
      ((check value first).result && (check value second).result) := by
  rw [Bool.eq_iff_iff, Bool.and_eq_true]
  simp only [check_result_iff, h.get?_extend_eq_some_iff]
  constructor
  · rintro ⟨hobject, htags⟩
    exact ⟨⟨hobject, fun key kind hfirst => htags key kind (Or.inl hfirst)⟩,
      hobject, fun key kind hsecond => htags key kind (Or.inr hsecond)⟩
  · rintro ⟨⟨hobject, hfirst⟩, -, hsecond⟩
    refine ⟨hobject, ?_⟩
    rintro key kind (hlisted | hlisted)
    · exact hfirst key kind hlisted
    · exact hsecond key kind hlisted

/-- No value passes against two contracts that list one key with different kinds. -/
theorem not_both_pass {key : PropertyKey} {kind asked : Kind} (hfirst : first.get? key = some kind)
    (hsecond : second.get? key = some asked) (hne : kind ≠ asked) :
    ¬((check value first).result = true ∧ (check value second).result = true) := by
  rintro ⟨hpassFirst, hpassSecond⟩
  have hkind := (check_result_iff.mp hpassFirst).2 key kind hfirst
  have hasked := (check_result_iff.mp hpassSecond).2 key asked hsecond
  exact hne (Kind.tag_injective (hkind.symm.trans hasked))

/-! ## Events -/

/-- Of the mismatches with two contracts that agree, an extended contract tells the one with the
smaller key. -/
theorem exists_least_mismatch_of_agree (h : first.Agree second) (hobject : isObject value = true)
    (hfails : (check value (first.extend second.entries)).result = false) :
    ∃ mismatch,
      (check value (first.extend second.entries)).events = [.propertyMismatch mismatch] ∧
      .propertyMismatch mismatch ∈ (check value first).events ++ (check value second).events ∧
      ∀ other,
        .propertyMismatch other ∈ (check value first).events ++ (check value second).events →
          other = mismatch ∨ compare mismatch.key other.key = .lt := by
  rcases exists_firstMismatch_of_fails hobject hfails with ⟨mismatch, hwhole, hevents⟩
  simp only [List.mem_append, propertyMismatch_mem_events_iff, hobject, true_and]
  refine ⟨mismatch, hevents, ?_, ?_⟩
  · have hlisted := (firstMismatch?_eq_some_iff.mp hwhole).1
    rcases h.get?_extend_eq_some_iff.mp hlisted with hfirst | hsecond
    · exact Or.inl (firstMismatch?_of_subset h.first_subset_extend hwhole hfirst)
    · exact Or.inr (firstMismatch?_of_subset h.second_subset_extend hwhole hsecond)
  · rintro other (hfirst | hsecond)
    · exact firstMismatch?_le_of_subset h.first_subset_extend hwhole hfirst
    · exact firstMismatch?_le_of_subset h.second_subset_extend hwhole hsecond

/-- What passes against a contract that is extended by another, and what is told of what fails.

- A value passes exactly when it passes against the second contract and has what the first lists
  under keys that the second does not list.
- If the two agree on the keys that they share, the verdict is the conjunction of both verdicts, and
  of an object that fails the one event is that of the smaller key among the events for the two.
- If the two list some key with different kinds, no value passes against both. -/
theorem check_extended_contract (value : α) (first second : Expectations) :
    ((check value (first.extend second.entries)).result = true ↔
      (check value second).result = true ∧
        ∀ key kind, first.get? key = some kind → second.get? key = none →
          Reflection.propertyTag value key = kind.tag) ∧
    (first.Agree second →
      (check value (first.extend second.entries)).result =
        ((check value first).result && (check value second).result) ∧
      (isObject value = true → (check value (first.extend second.entries)).result = false →
        ∃ mismatch,
          (check value (first.extend second.entries)).events = [.propertyMismatch mismatch] ∧
          .propertyMismatch mismatch ∈ (check value first).events ++ (check value second).events ∧
          ∀ other,
            .propertyMismatch other ∈ (check value first).events ++ (check value second).events →
              other = mismatch ∨ compare mismatch.key other.key = .lt)) ∧
    (∀ key kind asked, first.get? key = some kind → second.get? key = some asked → kind ≠ asked →
      ¬((check value first).result = true ∧ (check value second).result = true)) := by
  refine ⟨check_extend_iff, ?_, ?_⟩
  · intro hagree
    exact ⟨check_extend_of_agree hagree, exists_least_mismatch_of_agree hagree⟩
  · intro key kind asked hfirst hsecond hne
    exact not_both_pass hfirst hsecond hne

/-- An object without properties fails against two contracts that share no key.  The contract that
they make together tells the smaller of the two keys, which is the second's.  No value passes both
against the first and against one that lists another kind under its key. -/
theorem check_extended_contract_missing :
    Expectations.Agree (.ofList [(.name "b", .number)]) (.ofList [(.name "a", .object)]) ∧
      (check (Document.object []) (.ofList [(.name "b", .number)])).events =
        [.propertyMismatch ⟨.name "b", .number, .undefined⟩] ∧
      (check (Document.object []) ((OrderedMap.ofList [(PropertyKey.name "b", Kind.number)]).extend
          (OrderedMap.ofList [(PropertyKey.name "a", Kind.object)]).entries)).events =
        [.propertyMismatch ⟨.name "a", .object, .undefined⟩] ∧
      ¬((check (Document.object []) (.ofList [(.name "b", .number)])).result = true ∧
        (check (Document.object []) (.ofList [(.name "b", .string)])).result = true) := by
  have hagree : Expectations.Agree (.ofList [(.name "b", .number)])
      (.ofList [(.name "a", .object)]) := by
    intro key kind asked hfirst hsecond
    have hb : (key, kind) ∈ [(PropertyKey.name "b", Kind.number)] :=
      OrderedMap.get?_eq_some_iff.mp hfirst
    have ha : (key, asked) ∈ [(PropertyKey.name "a", Kind.object)] :=
      OrderedMap.get?_eq_some_iff.mp hsecond
    simp only [List.mem_singleton, Prod.mk.injEq] at hb ha
    have hne : PropertyKey.name "b" ≠ .name "a" := by decide
    exact absurd (hb.1.symm.trans ha.1) hne
  have hfirst : (check (Document.object []) (.ofList [(.name "b", .number)])).events =
      [.propertyMismatch ⟨.name "b", .number, .undefined⟩] := by decide
  have hsecond : (check (Document.object []) (.ofList [(.name "a", .object)])).events =
      [.propertyMismatch ⟨.name "a", .object, .undefined⟩] := by decide
  rcases check_extended_contract (Document.object []) (.ofList [(.name "b", .number)])
    (.ofList [(.name "a", .object)]) with ⟨-, hevents, -⟩
  rcases check_extended_contract (Document.object []) (.ofList [(.name "b", .number)])
    (.ofList [(.name "b", .string)]) with ⟨-, -, hconflict⟩
  refine ⟨hagree, hfirst, ?_, hconflict (.name "b") .number .string (by decide) (by decide)
    (by decide)⟩
  rcases (hevents hagree).2 rfl (by decide) with ⟨mismatch, htold, hmem, hleast⟩
  rw [hfirst, hsecond] at hmem hleast
  rw [htold]
  -- The first contract's mismatch cannot be the one that is told, for the second's key is smaller.
  have hle := hleast ⟨.name "a", .object, .undefined⟩ (by decide)
  simp only [List.singleton_append, List.mem_cons, Event.propertyMismatch.injEq, List.not_mem_nil,
    or_false] at hmem
  rcases hmem with rfl | rfl
  · revert hle
    decide
  · rfl

end Guard
end DuckTyping
