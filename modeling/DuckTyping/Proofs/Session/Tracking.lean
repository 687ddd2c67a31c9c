import DuckTyping.Proofs.Expectations.Text
import DuckTyping.Proofs.Session.Creations

/-!
# Sessions keep only symbols that they created

The symbols that a session created are those of the numbers it has counted.  A session is sound when
every symbol that it keeps is one of them.  Every action takes a sound session to a sound session,
creates its symbols one after the other, each of them in a sound session, and counts every one of
them; what it gives back mentions created symbols only.

Main definitions:

- `Session.Within`: symbols are among the first so many that are created.
- `Session.State.Sound`: a session keeps no other symbols than those that it created.
- `Session.Advance`: creations lead from a state to a sound state.
- `Session.Tracked`: an action makes given creations and keeps sessions sound.

Main results:

- `Session.Tracked.bind`: an action after another is tracked if both are.
- `Session.createLabelled_tracked`: the action that creates symbols makes one creation.
- `Session.evaluate_tracked`, `Session.evaluateContract_tracked`: the evaluation of terms is tracked.
-/

namespace DuckTyping
namespace Session

variable {α β : Type} {count : Nat} {state : State}

/-! ## Created symbols -/

/-- The symbols with a property are among the first so many that are created. -/
def Within (count : Nat) (property : SymbolId → Prop) : Prop :=
  ∀ id, property id → ∃ created < count, SymbolId.afterCount created = id

namespace Within

variable {p q : SymbolId → Prop}

theorem imp (h : Within count p) (hqp : ∀ id, q id → p id) : Within count q :=
  fun id hid => h id (hqp id hid)

theorem or (hp : Within count p) (hq : Within count q) : Within count fun id => p id ∨ q id :=
  fun id hid => hid.elim (hp id) (hq id)

theorem of_not (h : ∀ id, ¬ p id) : Within count p :=
  fun id hid => absurd hid (h id)

/-- What was created stays created. -/
theorem mono {later : Nat} (h : Within count p) (hle : count ≤ later) : Within later p := by
  intro id hid
  rcases h id hid with ⟨created, hlt, hcreated⟩
  exact ⟨created, Nat.lt_of_lt_of_le hlt hle, hcreated⟩

end Within

/-- Every symbol that a session keeps was created in it. -/
def State.Sound (state : State) : Prop :=
  Within state.symbolCount state.Mentions

/-- A session that keeps nothing is sound. -/
theorem State.initial_sound : State.initial.Sound := by
  apply Within.of_not
  rintro id (⟨label, symbol, h, -⟩ | ⟨name, value, h, -⟩ | ⟨name, expected, h, -⟩)
  all_goals contradiction

/-! ## Creations in turn -/

/-- Creations are made one after the other in sound states, while the count of symbols goes from one
number to another. -/
def InTurn (count : Nat) : List Creation → Nat → Prop
  | [], last => last = count
  | creation :: rest, last =>
    (creation.before.symbolCount = count ∧ creation.before.Sound) ∧ InTurn (count + 1) rest last

theorem InTurn.append {earlier later : List Creation} {middle last : Nat}
    (hearlier : InTurn count earlier middle) (hlater : InTurn middle later last) :
    InTurn count (earlier ++ later) last := by
  induction earlier generalizing count with
  | nil =>
    obtain rfl : middle = count := hearlier
    exact hlater
  | cons creation rest ih => exact ⟨hearlier.1, ih hearlier.2⟩

theorem InTurn.last_eq {creations : List Creation} {last : Nat}
    (h : InTurn count creations last) : last = count + creations.length := by
  induction creations generalizing count with
  | nil => exact h
  | cons creation rest ih =>
    rw [ih h.2, List.length_cons]
    omega

/-- Creations lead from one state to another, which is sound. -/
structure Advance (before : State) (creations : List Creation) (after : State) : Prop where
  inTurn : InTurn before.symbolCount creations after.symbolCount
  sound : after.Sound

namespace Advance

theorem refl (h : state.Sound) : Advance state [] state :=
  ⟨rfl, h⟩

theorem trans {earlier later : List Creation} {middle last : State}
    (hearlier : Advance state earlier middle) (hlater : Advance middle later last) :
    Advance state (earlier ++ later) last :=
  ⟨hearlier.inTurn.append hlater.inTurn, hlater.sound⟩

/-- Symbols are counted upwards. -/
theorem count_le {creations : List Creation} {last : State} (h : Advance state creations last) :
    state.symbolCount ≤ last.symbolCount :=
  Nat.le.intro h.inTurn.last_eq.symm

/-- A creation leads to the state right after it, which keeps no other new symbol. -/
theorem of_creation (creation : Creation) (h : creation.before.Sound) :
    Advance creation.before [creation] creation.after where
  inTurn := ⟨⟨rfl, h⟩, rfl⟩
  sound := by
    intro id hid
    rcases creation.mentions_after hid with hkept | rfl
    · exact h.mono (Nat.le_succ _) id hkept
    · exact ⟨creation.before.symbolCount, Nat.lt_succ_self _, rfl⟩

end Advance

/-! ## Runs -/

section Runs

variable {action : Action α} {next : α → Action β} {reached : State}

theorem run_bind_of_ok {result : α} (h : action.run state = (.ok result, reached)) :
    (action >>= next).run state = (next result).run reached := by
  rw [ExceptT.run_bind]
  simp only [bind, StateT.bind, h]

theorem run_bind_of_error {problem : Problem} (h : action.run state = (.error problem, reached)) :
    (action >>= next).run state = (.error problem, reached) := by
  rw [ExceptT.run_bind]
  simp only [bind, StateT.bind, h]
  rfl

end Runs

/-! ## Tracked actions -/

/-- On every sound session that has created so many symbols, an action makes given creations and
leaves a sound session, and what it gives back mentions created symbols only.

Results of earlier actions are not part of the state while an action runs.  What is known of them is
that they are within the count that these actions left, and this count bounds the later ones from
below. -/
def Tracked (count : Nat) (action : Action α) (creations : Creations)
    (mentions : α → SymbolId → Prop) : Prop :=
  ∀ state : State, count ≤ state.symbolCount → state.Sound →
    Advance state (creations state) (action.run state).2 ∧
      ∀ result, (action.run state).1 = .ok result →
        Within (action.run state).2.symbolCount (mentions result)

/-- A result that mentions no symbol. -/
def nothing (_ : α) (_ : SymbolId) : Prop :=
  False

theorem within_nothing (result : α) : Within count (nothing result) :=
  Within.of_not fun _ => id

namespace Tracked

variable {action : Action α} {next : α → Action β} {creations : Creations}
  {later : α → Creations} {mentions : α → SymbolId → Prop} {mentions' : β → SymbolId → Prop}

/-! ### Sequences -/

theorem pure {result : α} (h : Within count (mentions result)) :
    Tracked count (Pure.pure result) .none mentions := by
  intro state hle hsound
  refine ⟨.refl hsound, ?_⟩
  rintro _ ⟨⟩
  exact h.mono hle

theorem throw {problem : Problem} :
    Tracked count (throw problem : Action α) .none mentions :=
  fun _ _ hsound => ⟨.refl hsound, nofun⟩

/-- One action after another creates what the one creates and then what the other creates. -/
theorem bind (haction : Tracked count action creations mentions)
    (hnext : ∀ result now, count ≤ now → Within now (mentions result) →
      Tracked now (next result) (later result) mentions') :
    Tracked count (action >>= next) (creations.andThen action later) mentions' := by
  intro state hle hsound
  rcases haction state hle hsound with ⟨hadvance, hmentions⟩
  rcases hrun : action.run state with ⟨problem | result, reached⟩
  · rw [hrun] at hadvance
    rw [run_bind_of_error hrun, Creations.andThen, Creations.after, hrun]
    refine ⟨hadvance.trans (.refl hadvance.sound), ?_⟩
    intro result hok
    contradiction
  · rw [hrun] at hadvance hmentions
    rw [run_bind_of_ok hrun, Creations.andThen, Creations.after, hrun]
    have hresult := hmentions result rfl
    have hcount : count ≤ reached.symbolCount := Nat.le_trans hle hadvance.count_le
    rcases hnext result _ hcount hresult reached (Nat.le_refl _) hadvance.sound with
      ⟨hadvance', hmentions'⟩
    exact ⟨hadvance.trans hadvance', hmentions'⟩

/-- After an action that creates nothing, only the next one creates symbols. -/
theorem quiet_bind (haction : Tracked count action .none mentions)
    (hnext : ∀ result now, count ≤ now → Within now (mentions result) →
      Tracked now (next result) (later result) mentions') :
    Tracked count (action >>= next) (.after action later) mentions' :=
  haction.bind hnext

/-- Before an action that creates nothing, only the first one creates symbols. -/
theorem bind_quiet (haction : Tracked count action creations mentions)
    (hnext : ∀ result now, count ≤ now → Within now (mentions result) →
      Tracked now (next result) .none mentions') :
    Tracked count (action >>= next) creations mentions' := by
  rw [← creations.andThen_none action]
  exact haction.bind hnext

/-- Results that mention no more symbols than those of an action are as good. -/
theorem map {f : α → β} (haction : Tracked count action creations mentions)
    (h : ∀ result id, mentions' (f result) id → mentions result id) :
    Tracked count (do return f (← action)) creations mentions' :=
  haction.bind_quiet fun result _ _ hresult => pure (hresult.imp (h result))

/-! ### Basic actions -/

theorem get : Tracked count get .none State.Mentions := by
  intro state _ hsound
  refine ⟨.refl hsound, ?_⟩
  rintro _ ⟨⟩
  exact hsound

theorem demand {content : Option α}
    (h : ∀ result, content = some result → Within count (mentions result)) :
    Tracked count (demand content) .none mentions := by
  cases content with
  | none => exact throw
  | some result => exact pure (h result rfl)

/-- A change keeps a session sound if the symbols that it brings in were created. -/
theorem modify {change : State → State} {brought : SymbolId → Prop} (h : Within count brought)
    (hcount : ∀ state, (change state).symbolCount = state.symbolCount)
    (hmentions : ∀ state id, (change state).Mentions id → state.Mentions id ∨ brought id) :
    Tracked count (modify change) .none nothing := by
  intro state hle hsound
  refine ⟨⟨hcount state, ?_⟩, fun _ _ => within_nothing _⟩
  change Within (change state).symbolCount (change state).Mentions
  rw [hcount]
  exact (hsound.or (h.mono hle)).imp (hmentions state)

end Tracked

/-! ## What a session keeps -/

/-- The action that creates symbols makes one creation and gives its symbol. -/
theorem createLabelled_tracked (description label : Option String) :
    Tracked count (createLabelled description label) (.one description label) fun symbol id =>
      symbol.id = id := by
  intro state _ hsound
  rw [Creation.run_createLabelled ⟨state, description, label⟩]
  refine ⟨.of_creation ⟨state, description, label⟩ hsound, ?_⟩
  rintro _ ⟨⟩ id rfl
  exact ⟨state.symbolCount, Nat.lt_succ_self _, rfl⟩

theorem bindVariable_tracked {value : OrderedValue} (name : String)
    (h : Within count value.Mentions) :
    Tracked count (bindVariable name value) .none nothing := by
  unfold bindVariable
  apply Tracked.modify h
  · exact fun _ => rfl
  rintro state id (hkept | ⟨other, bound, hget, hbound⟩ | hkept)
  · exact Or.inl (Or.inl hkept)
  · rcases OrderedMap.eq_or_get?_of_get?_insert hget with rfl | hget
    · exact Or.inr hbound
    · exact Or.inl (Or.inr (Or.inl ⟨other, bound, hget, hbound⟩))
  · exact Or.inl (Or.inr (Or.inr hkept))

theorem bindContract_tracked {expected : Expectations} (name : String)
    (h : Within count expected.Mentions) :
    Tracked count (bindContract name expected) .none nothing := by
  unfold bindContract
  apply Tracked.modify h
  · exact fun _ => rfl
  rintro state id (hkept | hkept | ⟨other, bound, hget, hbound⟩)
  · exact Or.inl (Or.inl hkept)
  · exact Or.inl (Or.inr (Or.inl hkept))
  · rcases OrderedMap.eq_or_get?_of_get?_insert hget with rfl | hget
    · exact Or.inr hbound
    · exact Or.inl (Or.inr (Or.inr ⟨other, bound, hget, hbound⟩))

theorem symbolOf_tracked (label : String) :
    Tracked count (symbolOf label) .none fun symbol id => symbol.id = id :=
  Tracked.get.bind_quiet fun _ _ _ hkept => .demand fun symbol hget =>
    hkept.imp fun _ hid => Or.inl ⟨label, symbol, hget, hid⟩

theorem valueOf_tracked (name : String) :
    Tracked count (valueOf name) .none OrderedValue.Mentions :=
  Tracked.get.bind_quiet fun _ _ _ hkept => .demand fun value hget =>
    hkept.imp fun _ hid => Or.inr (Or.inl ⟨name, value, hget, hid⟩)

theorem contractOf_tracked (name : String) :
    Tracked count (contractOf name) .none Expectations.Mentions := by
  apply Tracked.get.map
  intro state id hid
  cases hget : state.contracts.get? name with
  | none =>
    rw [hget] at hid
    exact absurd hid Expectations.not_mentions_empty
  | some expected =>
    rw [hget] at hid
    exact Or.inr (Or.inr ⟨name, expected, hget, hid⟩)

theorem createFunction_tracked (name : String) (body : Body) :
    Tracked count (createFunction name body) .none nothing :=
  fun _ _ hsound => ⟨⟨rfl, hsound⟩, fun _ _ => within_nothing _⟩

/-! ## Evaluation -/

theorem evaluateKey_tracked (term : KeyTerm) :
    Tracked count (evaluateKey term) .none PropertyKey.Mentions := by
  cases term with
  | name text => exact .pure (.of_not nofun)
  | integer value => exact .pure (.of_not nofun)
  | symbol label =>
    apply (symbolOf_tracked label).map
    intro symbol id hid
    exact PropertyKey.symbol.inj hid

theorem evaluateKeys_tracked :
    ∀ {count : Nat} (terms : List KeyTerm), Tracked count (evaluateKeys terms) .none nothing
  | _, [] => .pure (within_nothing _)
  | _, term :: rest =>
    (evaluateKey_tracked term).bind_quiet fun _ _ _ _ =>
      (evaluateKeys_tracked rest).map fun _ _ => id

theorem evaluateDocument_tracked (term : DocumentTerm) :
    Tracked count (evaluateDocument term) .none nothing := by
  cases term with
  | given document => exact .pure (within_nothing _)
  | text source =>
    rw [evaluateDocument]
    split
    · exact .pure (within_nothing _)
    · exact .throw

theorem evaluateKind_tracked (name : String) :
    Tracked count (evaluateKind name) .none nothing := by
  rw [evaluateKind]
  split
  · exact .pure (within_nothing _)
  · exact .throw

mutual

/-- The evaluation of a term creates the symbols listed for the term. -/
theorem evaluate_tracked :
    ∀ {count : Nat} (term : ValueTerm),
      Tracked count (evaluate term) term.creations OrderedValue.Mentions
  | _, .undefined | _, .null | _, .bool _ | _, .number _ | _, .integer _ | _, .single _
  | _, .bigint _ | _, .string _ | _, .optional none =>
    .pure (.of_not fun _ => Value.not_mentions_leaf trivial nofun)
  | _, .freshSymbol description label =>
    (createLabelled_tracked description label).map fun _ _ => Value.mentions_symbol_iff.mp
  | _, .symbol label =>
    (symbolOf_tracked label).map fun _ _ => Value.mentions_symbol_iff.mp
  | _, .function name body =>
    (createFunction_tracked name body).map fun _ _ => Value.not_mentions_leaf trivial nofun
  | _, .array elements => (evaluateElements_tracked elements).map fun _ _ => id
  | _, .object bindings =>
    (evaluateBindings_tracked bindings).map fun _ _ => Value.mentions_of_ofEntries
  | _, .document term =>
    (evaluateDocument_tracked term).map fun document _ =>
      Value.not_mentions_ofDocument document.content
  | _, .named name => valueOf_tracked name
  | _, .optional (some content) => (evaluate_tracked content).map fun _ _ => id

/-- The evaluation of a list of terms creates the symbols listed for the terms. -/
theorem evaluateElements_tracked :
    ∀ {count : Nat} (terms : List ValueTerm),
      Tracked count (evaluateElements terms) (elementsCreations terms) fun values =>
        (OrderedValue.array values).Mentions
  | _, [] => .pure (.of_not fun _ => by simp [OrderedValue.Mentions, OrderedValue.array])
  | _, term :: rest => by
    rw [evaluateElements, elementsCreations]
    apply (evaluate_tracked term).bind
    intro value now _ hvalue
    apply (evaluateElements_tracked rest).bind_quiet
    intro values now' hle hvalues
    exact .pure (((hvalue.mono hle).or hvalues).imp fun _ => Value.mentions_array_cons.mp)

/-- The evaluation of bindings creates the symbols listed for the bindings. -/
theorem evaluateBindings_tracked :
    ∀ {count : Nat} (bindings : List (KeyTerm × ValueTerm)),
      Tracked count (evaluateBindings bindings) (bindingsCreations bindings) fun properties =>
        (Value.object (properties.map fun entry => (entry.1, entry.2.content))).Mentions
  | _, [] => .pure (.of_not fun _ => by simp)
  | _, (keyTerm, term) :: rest => by
    rw [evaluateBindings, bindingsCreations]
    apply (evaluateKey_tracked keyTerm).quiet_bind
    intro key now _ hkey
    apply (evaluate_tracked term).bind
    intro value now' hle hvalue
    apply (evaluateBindings_tracked rest).bind_quiet
    intro properties now'' hle' hproperties
    have hkey := hkey.mono (Nat.le_trans hle hle')
    have hvalue := hvalue.mono hle'
    exact .pure ((hkey.or (hvalue.or hproperties)).imp fun _ => Value.mentions_object_cons.mp)

end

/-- The entries of a contract mention the symbols of their keys. -/
theorem evaluateEntries_tracked :
    ∀ {count : Nat} (bindings : List (KeyTerm × String)),
      Tracked count (evaluateEntries bindings) .none fun entries id =>
        ∃ entry ∈ entries, entry.1.Mentions id
  | _, [] => .pure (.of_not fun _ => by simp)
  | _, (keyTerm, name) :: rest => by
    rw [evaluateEntries]
    apply (evaluateKey_tracked keyTerm).bind_quiet
    intro key now _ hkey
    apply (evaluateKind_tracked name).bind_quiet
    intro kind now' hle _
    apply (evaluateEntries_tracked rest).bind_quiet
    intro entries now'' hle' hentries
    have hkey := hkey.mono (Nat.le_trans hle hle')
    exact .pure ((hkey.or hentries).imp fun _ => by simp)

theorem evaluateContract_tracked (term : ContractTerm) :
    Tracked count (evaluateContract term) .none Expectations.Mentions := by
  cases term with
  | entries bindings =>
    apply (evaluateEntries_tracked bindings).map
    intro entries id hid
    exact (Expectations.mentions_of_extend hid).resolve_left Expectations.not_mentions_empty
  | named name => exact contractOf_tracked name

end Session
end DuckTyping
