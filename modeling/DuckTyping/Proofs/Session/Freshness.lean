import DuckTyping.Proofs.Session.Soundness
import Mathlib.Algebra.Group.Nat.Defs

/-!
# Symbols stay unique over whole runs

Numbers of symbols wrap around, so that symbols are only told apart while fewer than `2 ^ 64` of
them have been created.  So long, every creation returns a greater symbol than those before it,
whether a command answers it or a term is evaluated to it, and because a session keeps no other
symbols than those, a new symbol is found nowhere in it: it is equal to no symbol there, and nothing
is bound or expected under its key.

Main definitions:

- `Session.State.Lacks`: a symbol is new to what a session keeps.
- `Session.Script.SymbolsUnique`: how the symbols of a run stay unique.

Main results:

- `SymbolId.number_afterCount_lt`: symbols increase with the number of creations before them.
- `Session.InTurn.pairwise`, `Session.InTurn.exists_of_lt`: what creations in turn return.
- `Session.symbols_unique`: the symbols of every run that creates fewer than `2 ^ 64` of them are
  unique.
-/

namespace DuckTyping

/-! ## Numbers of symbols -/

namespace SymbolId

/-- Before numbers wrap around they increase with every creation. -/
theorem number_afterCount_lt {earlier later : Nat} (hlt : earlier < later)
    (hlater : later < 2 ^ 64 - 1) : (afterCount earlier).number < (afterCount later).number := by
  have hearlier : (afterCount earlier).number.toNat = earlier + 1 :=
    UInt64.toNat_ofNat_of_lt' (by change earlier + 1 < 2 ^ 64; omega)
  have hlater : (afterCount later).number.toNat = later + 1 :=
    UInt64.toNat_ofNat_of_lt' (by change later + 1 < 2 ^ 64; omega)
  rw [UInt64.lt_iff_toNat_lt, hearlier, hlater]
  omega

theorem afterCount_ne_of_lt {earlier later : Nat} (hlt : earlier < later)
    (hlater : later < 2 ^ 64 - 1) : afterCount earlier ≠ afterCount later := by
  intro heq
  have hnumber := number_afterCount_lt hlt hlater
  rw [heq] at hnumber
  exact UInt64.lt_irrefl _ hnumber

end SymbolId

namespace Session

variable {count last : Nat} {state : State}

/-! ## Creations in turn -/

namespace InTurn

variable {creations earlier later : List Creation} {creation : Creation}

theorem of_append (h : InTurn count (earlier ++ later) last) :
    ∃ middle, InTurn count earlier middle ∧ InTurn middle later last := by
  induction earlier generalizing count with
  | nil => exact ⟨count, rfl, h⟩
  | cons creation rest ih =>
    rcases ih h.2 with ⟨middle, hearlier, hlater⟩
    exact ⟨middle, ⟨h.1, hearlier⟩, hlater⟩

/-- Right before a creation the session is sound and has made the earlier creations. -/
theorem before (h : InTurn count (earlier ++ creation :: later) last) :
    creation.before.Sound ∧ InTurn count earlier creation.before.symbolCount := by
  rcases h.of_append with ⟨middle, hearlier, ⟨rfl, hsound⟩, -⟩
  exact ⟨hsound, hearlier⟩

/-- Every creation is made at a count from the first on and before the last. -/
theorem count_bounds (h : InTurn count creations last) (hmem : creation ∈ creations) :
    count ≤ creation.before.symbolCount ∧ creation.before.symbolCount < last := by
  induction creations generalizing count with
  | nil => contradiction
  | cons first rest ih =>
    rcases List.mem_cons.mp hmem with rfl | hmem
    · have hlast := h.last_eq
      rw [List.length_cons] at hlast
      have hcount := h.1.1
      omega
    · have hrest := ih h.2 hmem
      omega

/-- Every count from the first on and before the last is that of a creation. -/
theorem exists_of_lt (h : InTurn count creations last) {made : Nat} (hle : count ≤ made)
    (hlt : made < last) : ∃ creation ∈ creations, creation.before.symbolCount = made := by
  induction creations generalizing count with
  | nil =>
    obtain rfl : last = count := h
    omega
  | cons first rest ih =>
    rcases Nat.eq_or_lt_of_le hle with rfl | hcount
    · exact ⟨first, List.mem_cons_self, h.1.1⟩
    · rcases ih h.2 hcount with ⟨creation, hmem, hmade⟩
      exact ⟨creation, List.mem_cons_of_mem _ hmem, hmade⟩

/-- Later creations are made at greater counts. -/
theorem pairwise (h : InTurn count creations last) :
    creations.Pairwise fun earlier later =>
      earlier.before.symbolCount < later.before.symbolCount := by
  induction creations generalizing count with
  | nil => exact .nil
  | cons first rest ih =>
    refine .cons ?_ (ih h.2)
    intro later hmem
    have hbounds := h.2.count_bounds hmem
    have hcount := h.1.1
    omega

/-- The first symbols that a new session creates are those of its creations. -/
theorem exists_symbol_eq (h : InTurn 0 creations last) {property : SymbolId → Prop}
    (hwithin : Within last property) {id : SymbolId} (hid : property id) :
    ∃ creation ∈ creations, creation.symbol.id = id := by
  rcases hwithin id hid with ⟨made, hlt, rfl⟩
  rcases h.exists_of_lt (Nat.zero_le made) hlt with ⟨creation, hmem, rfl⟩
  exact ⟨creation, hmem, rfl⟩

end InTurn

/-! ## New symbols -/

/-- A symbol is new to what a session keeps. -/
structure State.Lacks (state : State) (symbol : Symbol) : Prop where
  /-- It is equal to no symbol that the session keeps, whatever both are described by. -/
  unequal : ∀ other : Symbol, state.Mentions other.id →
    (Value.symbol symbol).equals (.symbol other) = false ∧
      (Value.symbol other).equals (.symbol symbol) = false
  /-- Nothing is bound under its key in a value at any depth. -/
  unbound : ∀ name value, state.values.get? name = some value →
    ∀ part, Value.PartOf part value.content →
      part.get? symbol.key = none ∧ Reflection.propertyTag part symbol.key = .undefined
  /-- Nothing is expected under its key in a contract. -/
  unlisted : ∀ name expected, state.contracts.get? name = some expected →
    expected.get? symbol.key = none

/-- A symbol that does not occur in what a session keeps is new to it. -/
theorem State.lacks_of_not_mentions {symbol : Symbol} (h : ¬ state.Mentions symbol.id) :
    state.Lacks symbol where
  unequal := by
    intro other hother
    have hne : symbol.id ≠ other.id := by
      intro heq
      exact h (heq ▸ hother)
    exact ⟨beq_eq_false_iff_ne.mpr hne, beq_eq_false_iff_ne.mpr hne.symm⟩
  unbound := by
    intro name value hget part hpart
    have hpart : ¬ part.Mentions symbol.id := by
      intro hmentions
      exact h (Or.inr (Or.inl ⟨name, value, hget, hmentions.of_part hpart⟩))
    exact ⟨Value.get?_eq_none_of_not_mentions hpart,
      Value.propertyTag_eq_undefined_of_not_mentions hpart⟩
  unlisted := by
    intro name expected hget
    apply Expectations.get?_eq_none_iff_not_mentions.mpr
    intro hmentions
    exact h (Or.inr (Or.inr ⟨name, expected, hget, hmentions⟩))

/-- While numbers do not wrap around, the next symbol does not occur in a sound session. -/
theorem State.Sound.not_mentions_next (h : state.Sound) (hcount : state.symbolCount < 2 ^ 64 - 1) :
    ¬ state.Mentions (.afterCount state.symbolCount) := by
  intro hmentions
  rcases h _ hmentions with ⟨made, hlt, heq⟩
  exact SymbolId.afterCount_ne_of_lt hlt hcount heq

/-! ## Runs -/

/-- How the symbols that a script creates on a new session stay unique. -/
structure Script.SymbolsUnique (script : Script) : Prop where
  /-- The answer holds what the commands give, each in the state that it meets. -/
  outcomes : (run script).outcomes = (script.steps .initial).map Step.outcome
  /-- Every symbol that was counted was created. -/
  counted : (perform .initial script).2.symbolCount = (script.creations .initial).length
  /-- Every creation returns its symbol: a command answers it, a term is evaluated to it, a label
  that is given is bound to it. -/
  returned : ∀ creation ∈ script.creations .initial, creation.Returned
  /-- Every command for a new symbol answers the symbol of a creation as it asks for, and leaves its
  label bound to that symbol. -/
  answered : ∀ met ∈ script.steps .initial, ∀ description label,
    met.command = .createSymbol description label →
      ∃ creation ∈ script.creations .initial,
        creation.before = met.before ∧ creation.description = description ∧
        met.outcome = .symbol creation.symbol ∧
        ∀ bound, label = some bound → met.after.labels.get? bound = some creation.symbol
  /-- The symbols that these commands answer increase. -/
  answersIncrease : ((script.steps .initial).filterMap Step.answered?).Pairwise
    fun earlier later => earlier.id.number < later.id.number
  /-- Every creation returns a greater symbol than all before it. -/
  increasing : (script.creations .initial).Pairwise fun earlier later =>
    earlier.symbol.id.number < later.symbol.id.number
  /-- What the session keeps in the end mentions only symbols that were created. -/
  created : ∀ id, (perform .initial script).2.Mentions id →
    ∃ creation ∈ script.creations .initial, creation.symbol.id = id
  /-- What the session keeps right before a creation mentions only symbols created earlier. -/
  createdEarlier : ∀ earlier creation later,
    script.creations .initial = earlier ++ creation :: later →
      ∀ id, creation.before.Mentions id → ∃ made ∈ earlier, made.symbol.id = id
  /-- Every symbol is new to what the session keeps right before its creation. -/
  lacking : ∀ creation ∈ script.creations .initial, creation.before.Lacks creation.symbol
  /-- The key of a symbol is no name, not even one that is shown as the key is. -/
  nameless : ∀ creation ∈ script.creations .initial, ∀ text,
    creation.symbol.key ≠ .name text ∧ compare creation.symbol.key (.name text) ≠ .eq

/-- The commands for new symbols answer symbols that are created, in the order of the creations. -/
theorem Script.answered_sublist (script : Script) (state : State) :
    ((script.steps state).filterMap Step.answered?).Sublist
      ((script.creations state).map Creation.symbol) := by
  rw [Script.creations]
  induction script.steps state with
  | nil => exact .refl _
  | cons met rest ih =>
    have hmet := met.answered?_sublist
    rw [List.flatMap_cons, List.map_append]
    cases hanswered : met.answered? with
    | none =>
      rw [List.filterMap_cons_none hanswered]
      exact ih.trans (List.sublist_append_right _ _)
    | some symbol =>
      rw [hanswered] at hmet
      rw [List.filterMap_cons_some hanswered]
      exact hmet.append ih

/-- The symbols of every run that creates fewer than `2 ^ 64` of them are unique. -/
theorem symbols_unique (script : Script)
    (h : (script.creations .initial).length ≤ 2 ^ 64 - 1) : script.SymbolsUnique := by
  have hadvance := perform_advance script State.initial_sound
  have hturn : InTurn 0 (script.creations .initial) (perform .initial script).2.symbolCount :=
    hadvance.inTurn
  have hlast := hturn.last_eq
  rw [Nat.zero_add] at hlast
  have hbelow : ∀ creation ∈ script.creations .initial,
      creation.before.symbolCount < 2 ^ 64 - 1 := by
    intro creation hmem
    have hbounds := hturn.count_bounds hmem
    omega
  have hincreasing : (script.creations .initial).Pairwise fun earlier later =>
      earlier.symbol.id.number < later.symbol.id.number := by
    apply hturn.pairwise.imp_of_mem
    intro earlier later _ hmem hlt
    exact SymbolId.number_afterCount_lt hlt (hbelow later hmem)
  refine ⟨outcomes_perform .initial script, hlast, fun creation _ => creation.returned, ?answered,
    ?answersIncrease, hincreasing, ?created, ?createdEarlier, ?lacking,
    fun _ _ _ => ⟨nofun, nofun⟩⟩
  case answered =>
    intro met hmet description label hcommand
    rcases Step.exists_creation_of_createSymbol hcommand with
      ⟨creation, hmem, hbefore, hdescription, hlabel, houtcome, hafter⟩
    refine ⟨creation, List.mem_flatMap.mpr ⟨met, hmet, hmem⟩, hbefore, hdescription, houtcome, ?_⟩
    intro bound hbound
    rw [hafter]
    exact creation.returned.labelled bound (hlabel.trans hbound)
  case answersIncrease =>
    have hsymbols : ((script.creations .initial).map Creation.symbol).Pairwise
        fun earlier later => earlier.id.number < later.id.number :=
      List.pairwise_map.mpr hincreasing
    exact hsymbols.sublist (script.answered_sublist .initial)
  case created =>
    intro id hid
    exact hturn.exists_symbol_eq hadvance.sound hid
  case createdEarlier =>
    intro earlier creation later hcreations id hid
    rw [hcreations] at hturn
    rcases hturn.before with ⟨hsound, hearlier⟩
    exact hearlier.exists_symbol_eq hsound hid
  case lacking =>
    intro creation hmem
    rcases List.append_of_mem hmem with ⟨earlier, later, hcreations⟩
    rw [hcreations] at hturn
    rcases hturn.before with ⟨hsound, -⟩
    exact State.lacks_of_not_mentions (hsound.not_mentions_next (hbelow creation hmem))

/-- Four symbols, three of them with one description: one is bound to a label, used as a key and
listed in a contract, one is bound under that key, one is left over by a command that fails, and one
takes over the label. -/
def relabellingScript : Script :=
  .sequence [
    .command (.createSymbol (some "tag") (some "label")),
    .command
      (.onValue "box" (.assign (.object [(.symbol "label", .freshSymbol (some "tag") none)]))),
    .command (.onContract "shape" (.insert (.symbol "label") "symbol")),
    .command (.onValue "box" (.push (.freshSymbol none none))),
    .sequence [.command (.createSymbol (some "tag") (some "label"))]]

theorem symbols_unique_relabelling :
    (relabellingScript.creations .initial).map Creation.symbol =
        [⟨⟨1⟩, some "tag"⟩, ⟨⟨2⟩, some "tag"⟩, ⟨⟨3⟩, none⟩, ⟨⟨4⟩, some "tag"⟩] ∧
      (relabellingScript.steps .initial).filterMap Step.answered? =
        [⟨⟨1⟩, some "tag"⟩, ⟨⟨4⟩, some "tag"⟩] ∧
      relabellingScript.SymbolsUnique :=
  ⟨by decide, by decide, symbols_unique relabellingScript (by decide)⟩

end Session
end DuckTyping
