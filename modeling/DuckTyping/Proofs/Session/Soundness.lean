import DuckTyping.Proofs.Session.Tracking

/-!
# Runs keep sessions sound

Every command, failed or not, and every script takes a sound session to a sound session and creates
its symbols in turn.

Main results:

- `Session.execute_tracked`: what a command does is tracked.
- `Session.step_advance`: a step advances a sound session; after a failure as well, when the symbols
  that were created stay counted.
- `Session.perform_advance`: a script advances a sound session.
-/

namespace DuckTyping
namespace Session

variable {count : Nat} {state : State}

/-! ## Questions -/

theorem inspect_tracked (subject : Subject) (keyTerms : List KeyTerm) :
    Tracked count (inspect subject keyTerms) subject.creations nothing := by
  cases subject with
  | value term =>
    exact (evaluate_tracked term).bind_quiet fun _ _ _ _ =>
      (evaluateKeys_tracked keyTerms).map fun _ _ => id
  | document term =>
    exact (evaluateDocument_tracked term).bind_quiet fun _ _ _ _ =>
      (evaluateKeys_tracked keyTerms).map fun _ _ => id

theorem check_tracked (subject : Subject) (contractTerm : ContractTerm) :
    Tracked count (check subject contractTerm) subject.creations nothing := by
  cases subject with
  | value term =>
    exact (evaluate_tracked term).bind_quiet fun _ _ _ _ =>
      (evaluateContract_tracked contractTerm).map fun _ _ => False.elim
  | document term =>
    exact (evaluateDocument_tracked term).bind_quiet fun _ _ _ _ =>
      (evaluateContract_tracked contractTerm).map fun _ _ => False.elim

theorem recognise_tracked (shape : ShapeName) (subject : Subject) :
    Tracked count (recognise shape subject) subject.creations nothing := by
  cases subject with
  | value term => exact (evaluate_tracked term).map fun _ _ => False.elim
  | document term => exact (evaluateDocument_tracked term).map fun _ _ => id

theorem call_tracked (functionTerm : ValueTerm) (argumentTerms : List ValueTerm) :
    Tracked count (call functionTerm argumentTerms)
      (elementsCreations (functionTerm :: argumentTerms)) nothing := by
  rw [call, elementsCreations]
  apply (evaluate_tracked functionTerm).bind
  intro value now _ _
  apply (evaluateElements_tracked argumentTerms).bind_quiet
  intro arguments now' _ _
  split
  · exact .pure (within_nothing _)
  · exact .throw

theorem loadKindDocument_tracked (term : DocumentTerm) :
    Tracked count (loadKindDocument term) .none nothing := by
  apply (evaluateDocument_tracked term).bind_quiet
  intro document now _ _
  dsimp only
  cases Reader.kind document.content with
  | ok kind => exact .pure (within_nothing _)
  | error error => exact .throw

theorem loadKindText_tracked (text : String) :
    Tracked count (loadKindText text) .none nothing := by
  rw [loadKindText]
  split
  · exact .pure (within_nothing _)
  · exact .throw

/-! ## Contracts and values -/

/-- Work on a contract of created symbols leaves a contract of created symbols. -/
theorem reviseContract_tracked {expected : Expectations} (h : Within count expected.Mentions)
    (command : ContractCommand) :
    Tracked count (reviseContract expected command) .none fun result => result.2.Mentions := by
  have hempty : Within count (Expectations.Mentions .empty) :=
    .of_not fun _ => Expectations.not_mentions_empty
  have hinsert : ∀ {key : PropertyKey} {now : Nat} (kind : Kind), count ≤ now →
      Within now key.Mentions → Within now (Expectations.Mentions (expected.insert key kind)) := by
    intro key now kind hle hkey
    exact ((h.mono hle).or hkey).imp fun _ => Expectations.mentions_of_insert
  cases command with
  | clear => exact .pure hempty
  | put keyTerm name =>
    apply (evaluateKey_tracked keyTerm).bind_quiet
    intro key now hle hkey
    apply (evaluateKind_tracked name).bind_quiet
    intro kind now' hle' _
    rw [OrderedMap.put_eq]
    exact .pure (hinsert kind (Nat.le_trans hle hle') (hkey.mono hle'))
  | insert keyTerm name =>
    apply (evaluateKey_tracked keyTerm).bind_quiet
    intro key now hle hkey
    apply (evaluateKind_tracked name).bind_quiet
    intro kind now' hle' _
    exact .pure (hinsert kind (Nat.le_trans hle hle') (hkey.mono hle'))
  | extend entries =>
    apply (evaluateEntries_tracked entries).bind_quiet
    intro entries now hle hentries
    exact .pure (((h.mono hle).or hentries).imp fun _ => Expectations.mentions_of_extend)
  | collect entries =>
    apply (evaluateEntries_tracked entries).bind_quiet
    intro entries now hle hentries
    exact .pure (((hempty.mono hle).or hentries).imp fun _ => Expectations.mentions_of_extend)
  | get keyTerm =>
    exact (evaluateKey_tracked keyTerm).bind_quiet fun _ _ hle _ => .pure (h.mono hle)
  | copy source => exact (contractOf_tracked source).map fun _ _ => id
  | compare other =>
    exact (contractOf_tracked other).bind_quiet fun _ _ hle _ => .pure (h.mono hle)
  | loadText text =>
    rw [reviseContract]
    split
    case h_1 loaded hloaded =>
      exact .pure (.of_not fun _ => Expectations.not_mentions_of_parse hloaded)
    case h_2 => exact .throw
  | loadDocument term =>
    apply (evaluateDocument_tracked term).bind_quiet
    intro document now _ _
    dsimp only
    cases hloaded : Reader.expectations document.content with
    | ok loaded => exact .pure (.of_not fun _ => Expectations.not_mentions_of_read hloaded)
    | error error => exact .throw

theorem onContract_tracked (name : String) (command : ContractCommand) :
    Tracked count (onContract name command) .none nothing := by
  apply (contractOf_tracked name).bind_quiet
  intro expected now _ hexpected
  apply (reviseContract_tracked hexpected command).bind_quiet
  rintro ⟨returned, revised⟩ now' _ hrevised
  exact (bindContract_tracked name hrevised).map fun _ _ => id

/-- Work on a value of created symbols leaves a value of created symbols. -/
theorem reviseValue_tracked (name : String) (command : ValueCommand) :
    Tracked count (reviseValue name command) command.creations fun result => result.2.Mentions := by
  cases command with
  | assign term => exact (evaluate_tracked term).map fun _ _ => id
  | put keyTerm term =>
    apply (evaluateKey_tracked keyTerm).quiet_bind
    intro key now _ hkey
    apply (evaluate_tracked term).bind_quiet
    intro item now' hle hitem
    apply (valueOf_tracked name).bind_quiet
    intro value now'' hle' hvalue
    have hkey := hkey.mono (Nat.le_trans hle hle')
    have hitem := hitem.mono hle'
    apply Tracked.demand
    rintro ⟨previous, revised⟩ hput
    exact (hvalue.or (hkey.or hitem)).imp fun _ =>
      Value.mentions_of_put? (OrderedValue.content_put? hput)
  | take keyTerm =>
    apply (evaluateKey_tracked keyTerm).bind_quiet
    intro key now _ _
    apply (valueOf_tracked name).bind_quiet
    intro value now' _ hvalue
    apply Tracked.demand
    rintro ⟨previous, revised⟩ htake
    exact hvalue.imp fun _ => Value.mentions_of_take? (OrderedValue.content_take? htake)
  | clear => exact .pure (.of_not fun _ h => by simpa using Value.mentions_of_ofEntries h)
  | push term =>
    apply (evaluate_tracked term).bind_quiet
    intro item now _ hitem
    apply (valueOf_tracked name).bind_quiet
    intro value now' hle hvalue
    have hrevised : Tracked now' (demand (value.push? item)) .none OrderedValue.Mentions :=
      .demand fun revised hpush => (hvalue.or (hitem.mono hle)).imp fun _ =>
        Value.mentions_of_push? (OrderedValue.content_push? hpush)
    exact hrevised.map fun _ _ => id
  | pop =>
    apply (valueOf_tracked name).bind_quiet
    intro value now _ hvalue
    apply Tracked.demand
    rintro ⟨last, revised⟩ hpop
    exact hvalue.imp fun _ => Value.mentions_of_pop? (OrderedValue.content_pop? hpop)

theorem onValue_tracked (name : String) (command : ValueCommand) :
    Tracked count (onValue name command) command.creations nothing := by
  apply (reviseValue_tracked name command).bind_quiet
  rintro ⟨returned, revised⟩ now _ hrevised
  exact (bindVariable_tracked name hrevised).map fun _ _ => id

/-! ## Commands -/

/-- What a command does creates the symbols listed for the command. -/
theorem execute_tracked (command : Command) :
    Tracked count (execute command) command.creations nothing := by
  cases command with
  | readKind name => exact (evaluateKind_tracked name).map fun _ _ => id
  | listKinds => exact .pure (within_nothing _)
  | compareKinds left right =>
    exact (evaluateKind_tracked left).bind_quiet fun _ _ _ _ =>
      (evaluateKind_tracked right).map fun _ _ => id
  | loadKindText text => exact loadKindText_tracked text
  | loadKindDocument term => exact loadKindDocument_tracked term
  | describeTag tag => exact .pure (within_nothing _)
  | kindOfTag tag =>
    rw [execute]
    split
    · exact .pure (within_nothing _)
    · exact .throw
  | createSymbol description label =>
    exact (createLabelled_tracked description label).map fun _ _ => False.elim
  | describeKey term => exact (evaluateKey_tracked term).map fun _ _ => False.elim
  | compareKeys left right =>
    exact (evaluateKey_tracked left).bind_quiet fun _ _ _ _ =>
      (evaluateKey_tracked right).map fun _ _ => False.elim
  | inspect subject keyTerms => exact inspect_tracked subject keyTerms
  | compareValues terms => exact (evaluateElements_tracked terms).map fun _ _ => False.elim
  | call functionTerm argumentTerms => exact call_tracked functionTerm argumentTerms
  | check subject contractTerm => exact check_tracked subject contractTerm
  | narrow target term contractTerm asArray =>
    exact (evaluateDocument_tracked term).bind_quiet fun _ _ _ _ =>
      (evaluateContract_tracked contractTerm).map fun _ _ => False.elim
  | ensure shape term asArray => exact (evaluateDocument_tracked term).map fun _ _ => id
  | recognise shape subject => exact recognise_tracked shape subject
  | onContract name command => exact onContract_tracked name command
  | onValue name command => exact onValue_tracked name command

/-- A step advances a sound session.  After a failure the session keeps what it kept before, which
was created then and stays counted. -/
theorem step_advance (h : state.Sound) (command : Command) :
    Advance state (command.creations state) (step state command).2 := by
  rcases execute_tracked command state (Nat.le_refl _) h with ⟨hadvance, -⟩
  rw [step]
  split
  case h_1 outcome reached hrun =>
    rw [hrun] at hadvance
    exact hadvance
  case h_2 problem reached hrun =>
    rw [hrun] at hadvance
    exact ⟨hadvance.inTurn, h.mono hadvance.count_le⟩

mutual

/-- A script advances a sound session. -/
theorem perform_advance :
    ∀ {state : State} (script : Script), state.Sound →
      Advance state (script.creations state) (perform state script).2
  | _, .command command, h => by
    rw [Script.creations, Script.steps, List.flatMap_singleton]
    exact step_advance h command
  | _, .sequence scripts, h => performAll_advance scripts h

/-- Scripts advance a sound session one after the other. -/
theorem performAll_advance :
    ∀ {state : State} (scripts : List Script), state.Sound →
      Advance state (scriptsCreations scripts state) (performAll state scripts).2
  | _, [], h => .refl h
  | _, script :: rest, h => by
    have hfirst := perform_advance script h
    rw [scriptsCreations, scriptsSteps, List.flatMap_append]
    exact hfirst.trans (performAll_advance rest hfirst.sound)

end

end Session
end DuckTyping
