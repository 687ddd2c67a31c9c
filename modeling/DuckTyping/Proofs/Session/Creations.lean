import DuckTyping.Proofs.Expectations.Mentions
import DuckTyping.Session.Script

/-!
# The symbols that a session creates

Symbols are created while terms are evaluated, so that one command may create many of them, and one
that fails may have created some.  The list of the creations of a script is read off the evaluation
itself: what comes after an action starts from the state that the action leaves, and does not
happen if the action fails.  What a creation is listed with is what the session gives: a command
answers the symbol, a term is evaluated to it, and a label is bound to it.

Main definitions:

- `Session.State.Mentions`: a symbol occurs in what a session keeps.
- `Session.Creation`: the creation of a symbol, with the state right before it.
- `Session.Creation.Returned`: what a creation gives and does.
- `Session.Creations`: which symbols are created from a state on.
- `Session.ValueTerm.creations`, `Session.Command.creations`, `Session.Script.creations`: what the
  evaluation of a term, a command and a script create.
- `Session.Script.steps`: the commands of a script with the states that they meet.
- `Session.Answer.outcomes`: what the commands of a script give, in order.

Main results:

- `Session.Creation.returned`: creations return their symbols.
- `Session.Step.exists_creation_of_createSymbol`: a command for a new symbol answers the symbol that
  it creates.
- `Session.outcomes_perform`: the answer to a script holds what its commands give.
-/

namespace DuckTyping

namespace Session

variable {α : Type}

/-- A symbol occurs in what a session keeps: a label is bound to it, or it occurs in the value or
the contract that a name is bound to. -/
def State.Mentions (state : State) (id : SymbolId) : Prop :=
  (∃ label symbol, state.labels.get? label = some symbol ∧ symbol.id = id) ∨
    (∃ name value, state.values.get? name = some value ∧ value.content.Mentions id) ∨
      ∃ name expected, state.contracts.get? name = some expected ∧ expected.Mentions id

/-! ## Creations -/

/-- The creation of a symbol. -/
structure Creation where
  /-- The state right before the creation. -/
  before : State
  /-- The description that the symbol gets. -/
  description : Option String
  /-- The label that is bound to the symbol, if one is given. -/
  label : Option String

namespace Creation

/-- The symbol that a creation returns. -/
def symbol (creation : Creation) : Symbol :=
  ⟨SymbolId.afterCount creation.before.symbolCount, creation.description⟩

/-- The state right after a creation. -/
def after (creation : Creation) : State :=
  { creation.before with
    symbolCount := creation.before.symbolCount + 1
    labels :=
      match creation.label with
      | some label => creation.before.labels.insert label creation.symbol
      | none => creation.before.labels }

/-- What a creation gives and does, whether a command or a term asks for the symbol. -/
structure Returned (creation : Creation) : Prop where
  /-- A command for a new symbol answers the symbol. -/
  answered : step creation.before (.createSymbol creation.description creation.label) =
    (.symbol creation.symbol, creation.after)
  /-- A term for a new symbol is evaluated to the symbol. -/
  evaluated :
    (evaluate (.freshSymbol creation.description creation.label)).run creation.before =
      (.ok ⟨.symbol creation.symbol, trivial⟩, creation.after)
  /-- The symbol is described as it was asked for. -/
  described : creation.symbol.description = creation.description
  /-- A label that is given is bound to the symbol. -/
  labelled : ∀ label, creation.label = some label →
    creation.after.labels.get? label = some creation.symbol
  /-- The symbol is counted. -/
  counted : creation.after.symbolCount = creation.before.symbolCount + 1

/-- A creation is a run of the action that creates symbols. -/
theorem run_createLabelled (creation : Creation) :
    (createLabelled creation.description creation.label).run creation.before =
      (.ok creation.symbol, creation.after) := by
  rcases creation with ⟨before, description, _ | label⟩
  · rfl
  · rfl

/-- Creations return their symbols. -/
theorem returned (creation : Creation) : creation.Returned where
  answered := by
    rcases creation with ⟨before, description, _ | label⟩
    · rfl
    · rfl
  evaluated := by
    rcases creation with ⟨before, description, _ | label⟩
    · rfl
    · rfl
  described := rfl
  labelled := by
    rcases creation with ⟨before, description, label⟩
    rintro bound rfl
    exact (OrderedMap.get?_insert before.labels bound bound _).trans (if_pos rfl)
  counted := rfl

/-- After a creation nothing is kept but what was kept before it and the symbol. -/
theorem mentions_after {creation : Creation} {id : SymbolId}
    (h : creation.after.Mentions id) : creation.before.Mentions id ∨ creation.symbol.id = id := by
  rcases creation with ⟨before, description, _ | label⟩
  · exact Or.inl h
  · rcases h with ⟨other, bound, hget, hid⟩ | hkept
    · rcases OrderedMap.eq_or_get?_of_get?_insert hget with rfl | hget
      · exact Or.inr hid
      · exact Or.inl (Or.inl ⟨other, bound, hget, hid⟩)
    · exact Or.inl (Or.inr hkept)

end Creation

/-- The symbols that are created from a state on, in the order in which they are created. -/
abbrev Creations : Type :=
  State → List Creation

namespace Creations

/-- No symbol is created. -/
def none : Creations := fun _ => []

/-- One symbol is created. -/
def one (description label : Option String) : Creations := fun state =>
  [⟨state, description, label⟩]

/-- What is created after an action, unless the action fails. -/
def after (action : Action α) (next : α → Creations) : Creations := fun state =>
  match action.run state with
  | (.ok result, reached) => next result reached
  | (.error _, _) => []

/-- What an action creates, and then what is created after it. -/
def andThen (first : Creations) (action : Action α) (next : α → Creations) : Creations :=
  fun state => first state ++ after action next state

theorem after_none (action : Action α) : after action (fun _ => none) = none := by
  funext state
  rw [after]
  split <;> rfl

theorem andThen_none (first : Creations) (action : Action α) :
    first.andThen action (fun _ => none) = first := by
  funext state
  rw [andThen, after_none]
  exact List.append_nil (first state)

end Creations

/-! ## Terms -/

mutual

/-- What the evaluation of a term creates. -/
def ValueTerm.creations : ValueTerm → Creations
  | .freshSymbol description label => .one description label
  | .array elements => elementsCreations elements
  | .object bindings => bindingsCreations bindings
  | .optional (some content) => content.creations
  | _ => .none

/-- What the evaluation of a list of terms creates. -/
def elementsCreations : List ValueTerm → Creations
  | [] => .none
  | term :: rest => term.creations.andThen (evaluate term) fun _ => elementsCreations rest

/-- What the evaluation of the bindings of an object term creates. -/
def bindingsCreations : List (KeyTerm × ValueTerm) → Creations
  | [] => .none
  | (keyTerm, term) :: rest =>
    .after (evaluateKey keyTerm) fun _ =>
      term.creations.andThen (evaluate term) fun _ => bindingsCreations rest

end

/-- What the evaluation of a subject creates. -/
def Subject.creations : Subject → Creations
  | .value term => term.creations
  | .document _ => .none

/-! ## Commands -/

/-- What work on a named value creates. -/
def ValueCommand.creations : ValueCommand → Creations
  | .assign term | .push term => term.creations
  | .put keyTerm term => .after (evaluateKey keyTerm) fun _ => term.creations
  | .take _ | .clear | .pop => .none

/-- What a command creates. -/
def Command.creations : Command → Creations
  | .createSymbol description label => .one description label
  | .inspect subject _ | .check subject _ | .recognise _ subject => subject.creations
  | .compareValues terms => elementsCreations terms
  | .call functionTerm argumentTerms => elementsCreations (functionTerm :: argumentTerms)
  | .onValue _ command => command.creations
  | _ => .none

/-- A command with the state that it meets. -/
structure Step where
  before : State
  command : Command

namespace Step

/-- What the command gives. -/
def outcome (met : Step) : Outcome :=
  (step met.before met.command).1

/-- The state that the command leaves. -/
def after (met : Step) : State :=
  (step met.before met.command).2

/-- What the command creates. -/
def creations (met : Step) : List Creation :=
  met.command.creations met.before

/-- The symbol that the command answers, if it is one for a new symbol. -/
def answered? (met : Step) : Option Symbol :=
  match met.command, met.outcome with
  | .createSymbol _ _, .symbol symbol => some symbol
  | _, _ => none

/-- A command for a new symbol makes the creation that it asks for, answers the symbol, and leaves
the state after the creation. -/
theorem exists_creation_of_createSymbol {met : Step} {description label : Option String}
    (h : met.command = .createSymbol description label) :
    ∃ creation ∈ met.creations, creation.before = met.before ∧
      creation.description = description ∧ creation.label = label ∧
      met.outcome = .symbol creation.symbol ∧ met.after = creation.after := by
  rcases met with ⟨before, command⟩
  obtain rfl : command = .createSymbol description label := h
  have hreturned := (Creation.mk before description label).returned
  exact ⟨⟨before, description, label⟩, List.mem_singleton_self _, rfl, rfl, rfl,
    congrArg Prod.fst hreturned.answered, congrArg Prod.snd hreturned.answered⟩

/-- What a command answers as a new symbol is among the symbols that it creates. -/
theorem answered?_sublist (met : Step) :
    met.answered?.toList.Sublist (met.creations.map Creation.symbol) := by
  rcases met with ⟨before, command⟩
  cases command with
  | createSymbol description label =>
    have hanswered := (Creation.mk before description label).returned.answered
    rw [answered?, outcome, hanswered]
    exact .refl _
  | _ => exact List.nil_sublist _

end Step

/-! ## Scripts -/

mutual

/-- The commands of a script, one after the other, with the states that they meet. -/
def Script.steps : Script → State → List Step
  | .command command => fun state => [⟨state, command⟩]
  | .sequence scripts => scriptsSteps scripts

/-- The commands of scripts, one after the other, with the states that they meet. -/
def scriptsSteps : List Script → State → List Step
  | [] => fun _ => []
  | script :: rest => fun state =>
    script.steps state ++ scriptsSteps rest (perform state script).2

end

/-- What a script creates: what its commands create, one after the other. -/
def Script.creations (script : Script) : Creations := fun state =>
  (script.steps state).flatMap Step.creations

/-- What scripts create one after the other. -/
def scriptsCreations (scripts : List Script) : Creations := fun state =>
  (scriptsSteps scripts state).flatMap Step.creations

mutual

/-- What the commands of a script give, one after the other. -/
def Answer.outcomes : Answer → List Outcome
  | .outcome outcome => [outcome]
  | .sequence answers => answersOutcomes answers

/-- What the commands of scripts give, one after the other. -/
def answersOutcomes : List Answer → List Outcome
  | [] => []
  | answer :: rest => answer.outcomes ++ answersOutcomes rest

end

mutual

/-- The answer to a script holds what its commands give. -/
theorem outcomes_perform : ∀ (state : State) (script : Script),
    (perform state script).1.outcomes = (script.steps state).map Step.outcome
  | _, .command _ => rfl
  | state, .sequence scripts => outcomes_performAll state scripts

/-- The answers to scripts hold what their commands give. -/
theorem outcomes_performAll : ∀ (state : State) (scripts : List Script),
    answersOutcomes (performAll state scripts).1 = (scriptsSteps scripts state).map Step.outcome
  | _, [] => rfl
  | state, script :: rest => by
    rw [performAll, answersOutcomes, scriptsSteps, List.map_append, outcomes_perform state script,
      outcomes_performAll (perform state script).2 rest]

end

end Session
end DuckTyping
