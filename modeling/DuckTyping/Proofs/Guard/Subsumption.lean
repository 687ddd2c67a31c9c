import DuckTyping.Proofs.Bindings
import DuckTyping.Proofs.Guard.OwnBinding

/-!
# Subsumption of contracts

One contract is stricter than another if whatever passes the check against it passes that against
the other.  A contract that lists more is stricter, whatever values are checked.  Conversely each
contract has a value that carries what the contract lists and nothing else, and which therefore
tells apart any two contracts of which neither lists all that the other does.

Main definitions:

- `Expectations.sample`: the object that carries what a contract lists and nothing else.
- `Guard.Refines`, `Guard.RefinesArrays`: whatever passes against one contract passes against
  another.

Main results:

- `Guard.check_sample_iff`: a sample passes exactly against the contracts whose entries are listed.
- `Guard.refines_iff`, `Guard.refinesArrays_iff`: being stricter is listing more.
- `Guard.refinement_is_inclusion`: what follows for extended, satisfiable and equivalent contracts.
-/

namespace DuckTyping

/-! ## Samples -/

/-- A value that satisfies a kind. -/
def Kind.sample : Kind → OrderedValue
  | string => ⟨.string "", trivial⟩
  | object => .ofEntries []
  | number => ⟨.ofInt 0, trivial⟩
  | bigint => ⟨.bigint 0, trivial⟩
  | function => ⟨.function ⟨0, "", .undefined⟩, trivial⟩
  | symbol => ⟨.symbol ⟨.afterCount 0, none⟩, trivial⟩

@[simp]
theorem Kind.typeTag_sample (kind : Kind) : kind.sample.content.typeTag = kind.tag := by
  cases kind <;> rfl

namespace Expectations

/-- The object that carries what a contract lists and nothing else. -/
def sample (expected : Expectations) : OrderedValue where
  content := .object (expected.entries.map fun entry => (entry.1, entry.2.sample.content))
  wellFormed := Value.wellFormed_object_iff.mpr <| by
    refine ⟨List.pairwise_map.mpr expected.sorted, List.forall_mem_map.mpr ?_⟩
    intro entry _
    exact entry.2.sample.wellFormed

/-- Under each key a sample has what the contract expects there. -/
theorem propertyTag_sample (expected : Expectations) (key : PropertyKey) :
    expected.sample.content.propertyTag key =
      ((expected.get? key).map Kind.tag).getD .undefined := by
  rw [sample, Value.propertyTag, Entries.find?_map fun kind : Kind => kind.sample.content,
    OrderedMap.get?]
  cases Entries.find? key expected.entries with
  | none => rfl
  | some kind => exact kind.typeTag_sample

end Expectations

namespace Guard

variable {α : Type} [Reflection α]

/-- A sample passes exactly against the contracts each of whose entries its own contract lists. -/
theorem check_sample_iff {listed expected : Expectations} :
    (check listed.sample.content expected).result = true ↔
      expected.entries ⊆ listed.entries := by
  have hobject : isObject listed.sample.content = true := rfl
  have hproperty : ∀ key kind,
      Reflection.propertyTag listed.sample.content key = Kind.tag kind ↔
        listed.get? key = some kind := by
    intro key kind
    change listed.sample.content.propertyTag key = kind.tag ↔ listed.get? key = some kind
    rw [listed.propertyTag_sample]
    cases listed.get? key with
    | none => simp [kind.tag_ne_undefined.symm]
    | some found =>
      simp only [Option.map_some, Option.getD_some, Option.some.injEq]
      exact ⟨Kind.tag_injective, congrArg Kind.tag⟩
  simp only [check_result_iff, hobject, true_and, hproperty, OrderedMap.get?_eq_some_iff,
    List.subset_def, Prod.forall]

/-- An array of one element passes exactly when that element does. -/
theorem checkArray_singleton_iff {value : Value} {expected : Expectations} :
    (checkArray (Value.array [value]) expected).result = true ↔
      (check value expected).result = true := by
  have helements : Reflection.elements (Value.array [value]) = some [value] := rfl
  simp [checkArray_result_iff, helements]

/-! ## Contracts that list more -/

section Inclusion

variable {stricter looser : Expectations} (h : looser.entries ⊆ stricter.entries) {value : α}

include h

/-- What passes against a contract passes against every contract that lists less. -/
theorem check_passes_of_subset (hpass : (check value stricter).result = true) :
    (check value looser).result = true := by
  rw [check_result_iff] at hpass ⊢
  refine ⟨hpass.1, ?_⟩
  intro key kind hlisted
  apply hpass.2
  rw [OrderedMap.get?_eq_some_iff] at hlisted ⊢
  exact h hlisted

theorem checkArray_passes_of_subset (hpass : (checkArray value stricter).result = true) :
    (checkArray value looser).result = true := by
  rw [checkArray_result_iff] at hpass ⊢
  rcases hpass with ⟨elements, helements, hchecks⟩
  refine ⟨elements, helements, ?_⟩
  intro element hmem
  exact check_passes_of_subset h (hchecks element hmem)

end Inclusion

/-- Whatever value passes the check against one contract passes that against another. -/
def Refines (stricter looser : Expectations) : Prop :=
  ∀ value : Value, value.WellFormed → (check value stricter).result = true →
    (check value looser).result = true

/-- Whatever value passes the check of sequences against one contract passes that against
another. -/
def RefinesArrays (stricter looser : Expectations) : Prop :=
  ∀ value : Value, value.WellFormed → (checkArray value stricter).result = true →
    (checkArray value looser).result = true

/-- A contract is stricter than another exactly when it lists each entry of the other. -/
theorem refines_iff {stricter looser : Expectations} :
    Refines stricter looser ↔ looser.entries ⊆ stricter.entries := by
  constructor
  · intro h
    have hpass : (check stricter.sample.content stricter).result = true :=
      check_sample_iff.mpr (List.Subset.refl _)
    exact check_sample_iff.mp (h stricter.sample.content stricter.sample.wellFormed hpass)
  · intro h value _ hpass
    exact check_passes_of_subset h hpass

/-- A contract is stricter than another on sequences exactly when it is on single values. -/
theorem refinesArrays_iff {stricter looser : Expectations} :
    RefinesArrays stricter looser ↔ looser.entries ⊆ stricter.entries := by
  constructor
  · intro h
    apply refines_iff.mp
    intro value hwf hpass
    rw [← checkArray_singleton_iff] at hpass ⊢
    exact h _ (OrderedValue.array [⟨value, hwf⟩]).wellFormed hpass
  · intro h value _ hpass
    exact checkArray_passes_of_subset h hpass

/-! ## Extension and equality -/

/-- Bindings of new keys leave the old entries in place. -/
theorem subset_extend {expected : Expectations} {added : List (PropertyKey × Kind)}
    (hnew : ∀ entry ∈ added, expected.get? entry.1 = none) :
    expected.entries ⊆ (expected.extend added).entries := by
  intro entry hentry
  rw [← OrderedMap.get?_eq_some_iff] at hentry ⊢
  have hunbound : Entries.find? entry.1 added.reverse = none := by
    rw [Entries.find?_eq_none_iff]
    intro other hother heq
    have hother := hnew other (List.mem_reverse.mp hother)
    rw [heq, hentry] at hother
    contradiction
  rw [OrderedMap.get?_extend, hunbound, Option.none_or, hentry]

/-- Contracts that list each other's entries are equal. -/
theorem eq_of_subset_of_subset {first second : Expectations}
    (h : first.entries ⊆ second.entries) (h' : second.entries ⊆ first.entries) :
    first = second := by
  apply OrderedMap.ext
  intro key
  apply Option.ext
  intro kind
  rw [OrderedMap.get?_eq_some_iff, OrderedMap.get?_eq_some_iff]
  exact ⟨@h (key, kind), @h' (key, kind)⟩

/-- Contracts against which the same values pass are equal. -/
theorem eq_of_same_check {first second : Expectations}
    (hsame : ∀ value : Value, value.WellFormed →
      (check value first).result = (check value second).result) : first = second := by
  have hfirst : Refines first second := by
    intro value hwf hpass
    rwa [← hsame value hwf]
  have hsecond : Refines second first := by
    intro value hwf hpass
    rwa [hsame value hwf]
  exact eq_of_subset_of_subset (refines_iff.mp hsecond) (refines_iff.mp hfirst)

/-- Contracts against which the same sequences pass are equal. -/
theorem eq_of_same_checkArray {first second : Expectations}
    (hsame : ∀ value : Value, value.WellFormed →
      (checkArray value first).result = (checkArray value second).result) : first = second := by
  apply eq_of_same_check
  intro value hwf
  have harray := hsame _ (OrderedValue.array [⟨value, hwf⟩]).wellFormed
  rw [Bool.eq_iff_iff, ← checkArray_singleton_iff, ← checkArray_singleton_iff]
  exact Bool.eq_iff_iff.mp harray

/-- Being stricter is listing more, for single values and for sequences.  So entries under new keys
never make a rejected value pass, every contract is satisfied by some value, and contracts against
which the same values pass are equal. -/
theorem refinement_is_inclusion :
    (∀ stricter looser : Expectations,
      (Refines stricter looser ↔ looser.entries ⊆ stricter.entries) ∧
      (RefinesArrays stricter looser ↔ looser.entries ⊆ stricter.entries)) ∧
    (∀ (expected : Expectations) (added : List (PropertyKey × Kind)),
      (∀ entry ∈ added, expected.get? entry.1 = none) → ∀ value : Value,
        ((check value expected).result = false →
          (check value (expected.extend added)).result = false) ∧
        ((checkArray value expected).result = false →
          (checkArray value (expected.extend added)).result = false)) ∧
    (∀ expected : Expectations, ∃ value : Value, value.WellFormed ∧
      (check value expected).result = true ∧
      (checkArray (Value.array [value]) expected).result = true) ∧
    (∀ first second : Expectations,
      ((∀ value : Value, value.WellFormed →
          (check value first).result = (check value second).result) → first = second) ∧
      ((∀ value : Value, value.WellFormed →
          (checkArray value first).result = (checkArray value second).result) →
        first = second)) := by
  refine ⟨fun _ _ => ⟨refines_iff, refinesArrays_iff⟩, ?_, ?_, ?_⟩
  · intro expected added hnew value
    have hsubset := subset_extend hnew
    constructor
    · intro hfails
      rw [Bool.eq_false_iff] at hfails ⊢
      exact mt (check_passes_of_subset hsubset) hfails
    · intro hfails
      rw [Bool.eq_false_iff] at hfails ⊢
      exact mt (checkArray_passes_of_subset hsubset) hfails
  · intro expected
    have hpass : (check expected.sample.content expected).result = true :=
      check_sample_iff.mpr (List.Subset.refl _)
    exact ⟨expected.sample.content, expected.sample.wellFormed, hpass,
      checkArray_singleton_iff.mpr hpass⟩
  · intro first second
    exact ⟨eq_of_same_check, eq_of_same_checkArray⟩

/-- A contract for a name is looser than one that lists a symbol beside it, and not stricter.  What
it rejects the other rejects, and bound in either order the two entries make one contract. -/
theorem refinement_is_inclusion_symbol :
    Refines (.ofList [(.name "a", .string), (.symbol ⟨1⟩, .bigint)])
        (.ofList [(.name "a", .string)]) ∧
      ¬Refines (.ofList [(.name "a", .string)])
        (.ofList [(.name "a", .string), (.symbol ⟨1⟩, .bigint)]) ∧
      (check (Value.object [(.name "a", .null)])
        ((OrderedMap.ofList [(PropertyKey.name "a", Kind.string)]).extend
          [(.symbol ⟨1⟩, .bigint)])).result = false ∧
      (checkArray (Value.array [.object [(.name "a", .null)]])
        ((OrderedMap.ofList [(PropertyKey.name "a", Kind.string)]).extend
          [(.symbol ⟨1⟩, .bigint)])).result = false ∧
      (OrderedMap.ofList [(PropertyKey.name "a", Kind.string), (.symbol ⟨1⟩, .bigint)]) =
        .ofList [(.symbol ⟨1⟩, .bigint), (.name "a", .string)] := by
  rcases refinement_is_inclusion with ⟨hrefines, hextended, -, hequal⟩
  refine ⟨(hrefines _ _).1.mpr (by decide), ?_, ?_, ?_, ?_⟩
  · intro h
    have hsubset := (hrefines _ _).1.mp h
    revert hsubset
    decide
  · exact (hextended (.ofList [(.name "a", .string)]) [(.symbol ⟨1⟩, .bigint)] (by decide)
      (.object [(.name "a", .null)])).1 (by decide)
  · exact (hextended (.ofList [(.name "a", .string)]) [(.symbol ⟨1⟩, .bigint)] (by decide)
      (.array [.object [(.name "a", .null)]])).2 (by decide)
  · exact (hequal _ _).1 fun value _ => by rfl

end Guard
end DuckTyping
