import DuckTyping.Guard
import DuckTyping.Proofs.Bindings

/-!
# Histories of contracts

A contract is built by giving kinds for keys: one at a time, with or without asking for the kind
expected before, or many at once, on top of a contract or from nothing.  Its history is the list of
all keys and kinds that it was given, in order.  However a contract was built, the last kind that
its history gives for each key determines it.

Main definitions:

- `GivenKey`: a name, an integer or a symbol, with the key that it stands for.
- `Expectations.lastKind?`: the last kind that a history gives for a key.
- `Expectations.Built`: the contracts that can be built, each with its history.

Main results:

- `Expectations.Built.eq_ofList`: a contract is what its history leaves, whatever the construction.
- `Expectations.built_determined_by_last_kinds`: look-up, size and order of a contract in terms of
  its history, and histories with the same last kinds give contracts that no guard tells apart.
-/

namespace DuckTyping

/-! ## Keys as they are given -/

/-- What a property can be addressed by. -/
inductive GivenKey where
  | name (text : String)
  | integer (value : Int)
  | symbol (id : SymbolId)
deriving DecidableEq, Repr

/-- The key that something given stands for; an integer stands for its numeral. -/
def GivenKey.canonical : GivenKey → PropertyKey
  | name text => .name text
  | integer value => .ofInt value
  | symbol id => .symbol id

namespace Expectations

/-! ## Histories -/

/-- The entries that given keys and kinds stand for. -/
def canonicalEntries (given : List (GivenKey × Kind)) : List (PropertyKey × Kind) :=
  given.map fun entry => (entry.1.canonical, entry.2)

/-- The last kind that a history gives for a key. -/
def lastKind? (history : List (GivenKey × Kind)) (key : PropertyKey) : Option Kind :=
  (history.findRev? fun entry => entry.1.canonical = key).map Prod.snd

/-- The contracts that can be built, each with the keys and kinds that it was given. -/
inductive Built : List (GivenKey × Kind) → Expectations → Prop where
  | empty : Built [] .empty
  | collect (given : List (GivenKey × Kind)) : Built given (.ofList (canonicalEntries given))
  | put {history : List (GivenKey × Kind)} {expected : Expectations}
      (built : Built history expected) (key : GivenKey) (kind : Kind) :
      Built (history ++ [(key, kind)]) (expected.put key.canonical kind).2
  | insert {history : List (GivenKey × Kind)} {expected : Expectations}
      (built : Built history expected) (key : GivenKey) (kind : Kind) :
      Built (history ++ [(key, kind)]) (expected.insert key.canonical kind)
  | extend {history : List (GivenKey × Kind)} {expected : Expectations}
      (built : Built history expected) (given : List (GivenKey × Kind)) :
      Built (history ++ given) (expected.extend (canonicalEntries given))

theorem find?_reverse_canonicalEntries (history : List (GivenKey × Kind)) (key : PropertyKey) :
    Entries.find? key (canonicalEntries history).reverse = lastKind? history key := by
  rw [lastKind?, List.findRev?_eq_find?_reverse, Entries.find?_eq_map_find?, canonicalEntries,
    ← List.map_reverse, List.find?_map, Option.map_map]
  rfl

theorem canonicalEntries_append (earlier later : List (GivenKey × Kind)) :
    canonicalEntries (earlier ++ later) = canonicalEntries earlier ++ canonicalEntries later :=
  List.map_append

theorem map_fst_canonicalEntries (history : List (GivenKey × Kind)) :
    (canonicalEntries history).map Prod.fst = history.map fun entry => entry.1.canonical := by
  rw [canonicalEntries, List.map_map]
  rfl

/-! ## What a history leaves -/

/-- One more kind is the last of a longer history. -/
theorem insert_ofList (history : List (GivenKey × Kind)) (key : GivenKey) (kind : Kind) :
    (OrderedMap.ofList (canonicalEntries history)).insert key.canonical kind =
      .ofList (canonicalEntries (history ++ [(key, kind)])) := by
  rw [canonicalEntries_append, OrderedMap.ofList_append]
  rfl

namespace Built

variable {history other : List (GivenKey × Kind)} {expected revised : Expectations}

/-- A contract is what its history leaves, whatever the construction. -/
theorem eq_ofList (h : Built history expected) :
    expected = .ofList (canonicalEntries history) := by
  induction h with
  | empty => rfl
  | collect given => rfl
  | put _ key kind ih => rw [OrderedMap.put_eq, ih, insert_ofList]
  | insert _ key kind ih => rw [ih, insert_ofList]
  | extend _ given ih => rw [ih, canonicalEntries_append, OrderedMap.ofList_append]

/-- A contract holds under each key the last kind that its history gives for it. -/
theorem get?_eq (h : Built history expected) (key : PropertyKey) :
    expected.get? key = lastKind? history key := by
  rw [h.eq_ofList, OrderedMap.get?_ofList, find?_reverse_canonicalEntries]

theorem mem_keys_iff (h : Built history expected) {key : PropertyKey} :
    key ∈ expected.entries.map Prod.fst ↔ key ∈ history.map fun entry => entry.1.canonical := by
  rw [h.eq_ofList, OrderedMap.mem_keys_ofList, map_fst_canonicalEntries]

/-- A contract lists as many entries as its history has different keys. -/
theorem size_eq (h : Built history expected) :
    expected.size = (history.map fun entry => entry.1.canonical).dedup.length := by
  rw [h.eq_ofList, OrderedMap.size_ofList, map_fst_canonicalEntries]

/-- Histories with the same last kinds leave the same contract. -/
theorem eq_of_lastKind?_eq (h : Built history expected) (h' : Built other revised)
    (hlast : ∀ key, lastKind? history key = lastKind? other key) : expected = revised := by
  apply OrderedMap.ext
  intro key
  rw [h.get?_eq, h'.get?_eq, hlast]

end Built

theorem isEmpty_iff_size_eq_zero (expected : Expectations) :
    expected.isEmpty = true ↔ expected.size = 0 := by
  rw [OrderedMap.isEmpty, OrderedMap.size, List.isEmpty_iff, List.length_eq_zero_iff]

/-- A contract is determined by the last kind that its history gives for each key.

- Look-up finds that kind, and putting a kind gives what look-up gave before.
- The size is the number of different keys, and only a contract of size zero is empty.
- Each key is listed once, in strictly increasing order, with the kind that look-up finds.
- Another history with the same last kinds gives the same contract with the same text, and all
  guards agree on both, verdicts and events. -/
theorem built_determined_by_last_kinds {history : List (GivenKey × Kind)}
    {expected : Expectations} (h : Built history expected) :
    (∀ key, expected.get? key = lastKind? history key) ∧
    (∀ key kind, (expected.put key kind).1 = expected.get? key) ∧
    expected.size = (history.map fun entry => entry.1.canonical).dedup.length ∧
    (expected.isEmpty = true ↔ expected.size = 0) ∧
    (expected.entries.Pairwise fun earlier later => compare earlier.1 later.1 = .lt) ∧
    (∀ key, key ∈ expected.entries.map Prod.fst ↔
      key ∈ history.map fun entry => entry.1.canonical) ∧
    (∀ key kind, (key, kind) ∈ expected.entries ↔ expected.get? key = some kind) ∧
    ∀ other revised, Built other revised →
      (∀ key, lastKind? history key = lastKind? other key) →
        expected = revised ∧ expected.display = revised.display ∧
          ∀ {α : Type} [Reflection α] (value : α),
            Guard.check value expected = Guard.check value revised ∧
              Guard.checkArray value expected = Guard.checkArray value revised := by
  refine ⟨h.get?_eq, ?_, h.size_eq, isEmpty_iff_size_eq_zero expected, expected.sorted,
    fun _ => h.mem_keys_iff, fun _ _ => OrderedMap.get?_eq_some_iff.symm, ?_⟩
  · intro key kind
    rw [OrderedMap.put_eq]
  · intro other revised h' hlast
    have heq : expected = revised := h.eq_of_lastKind?_eq h' hlast
    subst heq
    exact ⟨rfl, rfl, fun _ => ⟨rfl, rfl⟩⟩

/-- A numeral collected as a name and then put as an integer is one key, and it does not matter that
another history gave a symbol first. -/
theorem built_determined_by_last_kinds_numeral :
    Built [(.name "7", .string), (.symbol ⟨1⟩, .object), (.integer 7, .number)]
        ((OrderedMap.ofList [(.name "7", .string), (.symbol ⟨1⟩, .object)]).put (.name "7")
          .number).2 ∧
      ((OrderedMap.ofList [(PropertyKey.name "7", Kind.string), (.symbol ⟨1⟩, .object)]).put
          (.name "7") .number).2 =
        (OrderedMap.empty.insert (.symbol ⟨1⟩) .object).extend [(.name "7", .number)] := by
  have hcollected : Built
      [(.name "7", .string), (.symbol ⟨1⟩, .object), (.integer 7, .number)]
      ((OrderedMap.ofList [(.name "7", .string), (.symbol ⟨1⟩, .object)]).put (.name "7")
        .number).2 :=
    (Built.collect [(.name "7", .string), (.symbol ⟨1⟩, .object)]).put (.integer 7) .number
  have hextended : Built [(.symbol ⟨1⟩, .object), (.integer 7, .number)]
      ((OrderedMap.empty.insert (.symbol ⟨1⟩) .object).extend [(.name "7", .number)]) :=
    (Built.empty.insert (.symbol ⟨1⟩) .object).extend [(.integer 7, .number)]
  refine ⟨hcollected, ?_⟩
  rcases built_determined_by_last_kinds hcollected with ⟨-, -, -, -, -, -, -, hsame⟩
  refine (hsame _ _ hextended ?_).1
  intro key
  have hseven : PropertyKey.ofInt 7 = .name "7" := by decide
  have hname : PropertyKey.name "7" ≠ .symbol ⟨1⟩ := by decide
  by_cases hkey : PropertyKey.name "7" = key
  · simp [lastKind?, List.findRev?, GivenKey.canonical, hseven, hkey]
  · by_cases hsymbol : PropertyKey.symbol ⟨1⟩ = key
    · simp [lastKind?, List.findRev?, GivenKey.canonical, hseven, hname, ← hsymbol]
    · simp [lastKind?, List.findRev?, GivenKey.canonical, hseven, hkey, hsymbol]

end Expectations
end DuckTyping
