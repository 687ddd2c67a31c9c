import DuckTyping.Proofs.Expectations.History
import DuckTyping.Proofs.Guard.Edits
import DuckTyping.Proofs.Guard.EqualValues

/-!
# Histories of objects

An object is collected from entries and then edited, property by property.  Its history lists the
entries as bindings, in the order in which they were given, and the edits after them.  What the
object holds under a key is decided by the last edit in its history that touches the key: an item if
that edit binds the key, and nothing if it unbinds it or if there is none.

Main definitions:

- `Value.collect`: the object that is collected from entries under given keys.
- `Edit.history`: the history of an object that is collected and then edited.
- `Edit.leaves?`: what a history leaves under a key.
- `Value.Same`: two values are identical, or equal.

Main results:

- `Value.put?_object`, `Value.take?_object`: what an edit answers, and what it leaves.
- `Edit.exists_run?_object`: what one edit does to every key.
- `Edit.exists_runAll?_object`: what a sequence of edits does to every key.
- `Value.objects_follow_last_bindings`: objects in terms of their histories, and histories that
  leave the same value under every key.
-/

namespace DuckTyping

/-! ## Histories -/

/-- The object that is collected from entries under given keys; the last entry of a key wins. -/
def Value.collect (given : List (GivenKey × Value)) : Value :=
  ofEntries (given.map fun entry => (entry.1.canonical, entry.2))

namespace Edit

/-- The key that an edit touches. -/
def key : Edit → PropertyKey
  | put key _ => key
  | take key => key

/-- What an edit leaves under its key. -/
def item? : Edit → Option Value
  | put _ item => some item
  | take _ => none

/-- The history of an object that is collected from entries and then edited. -/
def history (given : List (GivenKey × Value)) (edits : List Edit) : List Edit :=
  (given.map fun entry => put entry.1.canonical entry.2) ++ edits

/-- What a history leaves under a key: the item that was bound last, unless the key has been unbound
since. -/
def leaves? (history : List Edit) (key : PropertyKey) : Option Value :=
  (history.findRev? fun edit => edit.key = key).bind item?

end Edit

/-! ## Single edits -/

namespace Value

variable {properties : List (PropertyKey × Value)}

/-- Putting a property answers what is found under its key and binds it. -/
theorem put?_object (h : Entries.Sorted properties) (key : PropertyKey) (item : Value) :
    (object properties).put? key item =
      some ((object properties).get? key, object (Entries.insert key item properties)) := by
  rw [put?, h.put_eq, get?]

/-- Taking a property answers what is found under its key and unbinds it. -/
theorem take?_object (h : Entries.Sorted properties) (key : PropertyKey) :
    (object properties).take? key =
      some ((object properties).get? key, object (Entries.erase key properties)) := by
  rw [take?, h.take_eq, get?]

end Value

namespace Edit

variable {properties : List (PropertyKey × Value)}

/-- An edit of an object leaves its item under its key and every other key alone. -/
theorem exists_run?_object (h : Entries.Sorted properties) (edit : Edit) :
    ∃ revised, edit.run? (.object properties) = some (.object revised) ∧
      Entries.Sorted revised ∧
      ∀ key, Entries.find? key revised =
        if key = edit.key then edit.item? else Entries.find? key properties := by
  cases edit with
  | put key item =>
    refine ⟨Entries.insert key item properties, ?_, h.insert key item, ?_⟩
    · rw [run?, Value.put?_object h, Option.map_some]
    · intro other
      exact Entries.find?_insert key other item properties
  | take key =>
    refine ⟨Entries.erase key properties, ?_, h.erase key, ?_⟩
    · rw [run?, Value.take?_object h, Option.map_some]
    · intro other
      exact Entries.find?_erase key other properties

/-! ## Sequences of edits -/

/-- What is found after a sequence of edits: the item of the last edit of the key, or what was found
before if no edit touches it. -/
theorem exists_runAll?_object (h : Entries.Sorted properties) (edits : List Edit) :
    ∃ revised, runAll? (.object properties) edits = some (.object revised) ∧
      Entries.Sorted revised ∧
      ∀ key, Entries.find? key revised =
        ((edits.findRev? fun edit => edit.key = key).map item?).getD
          (Entries.find? key properties) := by
  induction edits generalizing properties with
  | nil => exact ⟨properties, rfl, h, fun _ => rfl⟩
  | cons edit rest ih =>
    rcases exists_run?_object h edit with ⟨next, hnext, hsorted, hstep⟩
    rcases ih hsorted with ⟨revised, hrevised, hsorted', hrest⟩
    refine ⟨revised, ?_, hsorted', ?_⟩
    · rw [runAll?, List.foldlM_cons, hnext]
      exact hrevised
    · intro key
      rw [hrest, hstep, List.findRev?]
      -- A later edit of the key hides the first one; otherwise the first one decides.
      cases rest.findRev? fun edit => edit.key = key with
      | some later => rfl
      | none =>
        by_cases hkey : edit.key = key
        · simp [hkey]
        · simp [hkey, Ne.symm hkey]

/-- Putting the entries of a list one after the other extends the object by them. -/
theorem runAll?_map_put (bindings : List (PropertyKey × Value)) :
    runAll? (.object properties) (bindings.map fun entry => put entry.1 entry.2) =
      some (.object (Entries.extend properties bindings)) := by
  induction bindings generalizing properties with
  | nil => rfl
  | cons entry rest ih =>
    have hput : (put entry.1 entry.2).run? (.object properties) =
        some (.object (Entries.insert entry.1 entry.2 properties)) := by
      simp only [run?, Value.put?, Entries.put_snd, Option.map_some]
    rw [runAll?, List.map_cons, List.foldlM_cons, hput]
    exact ih

/-- Collecting entries and then editing the object is one run of its history, from the object without
properties. -/
theorem runAll?_collect (given : List (GivenKey × Value)) (edits : List Edit) :
    runAll? (Value.collect given) edits = runAll? (.object []) (history given edits) := by
  have hcollect : runAll? (.object []) (given.map fun entry => put entry.1.canonical entry.2) =
      some (Value.collect given) := by
    rw [Value.collect, Value.ofEntries, Entries.ofList, ← runAll?_map_put, List.map_map]
    rfl
  rw [runAll?] at hcollect
  rw [history, runAll?, runAll?, List.foldlM_append, hcollect]
  rfl

/-- An object that is collected and then edited lists its properties by increasing key, and finds
under each key what its history leaves. -/
theorem exists_runAll?_collect (given : List (GivenKey × Value)) (edits : List Edit) :
    ∃ properties, runAll? (Value.collect given) edits = some (.object properties) ∧
      Entries.Sorted properties ∧
      ∀ key, Entries.find? key properties = leaves? (history given edits) key := by
  rcases exists_runAll?_object Entries.sorted_nil (history given edits) with
    ⟨properties, hrun, hsorted, hfind⟩
  refine ⟨properties, ?_, hsorted, ?_⟩
  · rw [runAll?_collect, hrun]
  · intro key
    rw [hfind, leaves?, Entries.find?_nil]
    cases (history given edits).findRev? fun edit => edit.key = key <;> rfl

end Edit

/-! ## The same values under every key -/

namespace Value

/-- Two values are identical, or equal.  Identical values are equal as well, unless NaN stands in
them. -/
def Same (a b : Value) : Prop :=
  a = b ∨ a.equals b = true

variable {a b : Value} {as bs : List (PropertyKey × Value)}

/-- Where two histories leave one and the same, they leave the same value. -/
theorem rel_same_of_eq {x y : Option Value} (h : x = y) : Option.Rel Same x y := by
  subst h
  cases x with
  | none => exact .none
  | some _ => exact .some (Or.inl rfl)

theorem Same.typeTag_eq (h : Same a b) : a.typeTag = b.typeTag := by
  rcases h with rfl | hequal
  · rfl
  · exact typeTag_eq_of_equals hequal

/-- The same value is equal to itself exactly when no NaN stands in it. -/
theorem Same.equals_iff (h : Same a b) : a.equals b = true ↔ a.NaNFree := by
  rcases h with rfl | hequal
  · exact equals_self_iff
  · have hself : a.equals a = true := equals_trans hequal (equals_symm hequal)
    exact ⟨fun _ => equals_self_iff.mp hself, fun _ => hequal⟩

/-- Objects that hold the same value under every key look alike. -/
theorem alike_object_of_same
    (h : ∀ key, Option.Rel Same (Entries.find? key as) (Entries.find? key bs)) :
    Guard.Alike (object as) (object bs) where
  typeTag_eq := rfl
  propertyTag_eq := by
    intro key
    change (object as).propertyTag key = (object bs).propertyTag key
    rw [propertyTag, propertyTag]
    rcases none_or_some_of_rel (h key) with ⟨ha, hb⟩ | ⟨a, b, ha, hb, hsame⟩
    · rw [ha, hb]
    · rw [ha, hb]
      exact hsame.typeTag_eq

/-- Objects that hold the same value under every key are equal exactly when no NaN stands in one of
these values. -/
theorem object_equals_iff_of_same (has : Entries.Sorted as) (hbs : Entries.Sorted bs)
    (h : ∀ key, Option.Rel Same (Entries.find? key as) (Entries.find? key bs)) :
    (object as).equals (object bs) = true ↔
      ∀ key a, Entries.find? key as = some a → a.NaNFree := by
  rw [equals, propertiesEqual_iff, has.forall₂_related_iff_rel hbs]
  refine forall_congr' fun key => ?_
  rcases none_or_some_of_rel (h key) with ⟨ha, hb⟩ | ⟨a, b, ha, hb, hsame⟩
  · rw [ha, hb]
    simp only [reduceCtorEq, false_implies, implies_true, iff_true]
    exact .none
  · rw [ha, hb]
    simp only [Option.rel_some_some, Option.some.injEq, forall_eq', hsame.equals_iff]

/-- An object holds under each key what was bound to the key last and has not been unbound since.

- Whatever entries an object is collected from, with names, integers or symbols as keys and with
  repetitions, every sequence of edits succeeds on it, and look-up finds under each key what the
  history leaves there.  No key is listed twice.
- After any such history putting and taking a property answer what look-up finds just before.  Then
  look-up finds the item under the key, or nothing, and under every other key what it found before.
- Two histories that leave the same value under every key leave objects with the same tag under
  every key, on which every guard gives the same verdict with the same events.  These objects are
  equal exactly when no NaN stands in a value that is left, at any depth. -/
theorem objects_follow_last_bindings :
    (∀ (given : List (GivenKey × Value)) (edits : List Edit), ∃ properties,
      Edit.runAll? (collect given) edits = some (object properties) ∧
      (properties.map Prod.fst).Nodup ∧
      (∀ key, (object properties).get? key = Edit.leaves? (Edit.history given edits) key) ∧
      (∀ key item, ∃ next,
        (object properties).put? key item = some ((object properties).get? key, next) ∧
          ∀ other, next.get? other =
            if other = key then some item else (object properties).get? other) ∧
      ∀ key, ∃ next,
        (object properties).take? key = some ((object properties).get? key, next) ∧
          ∀ other, next.get? other =
            if other = key then none else (object properties).get? other) ∧
    ∀ (given given' : List (GivenKey × Value)) (edits edits' : List Edit) (v w : Value),
      Edit.runAll? (collect given) edits = some v →
      Edit.runAll? (collect given') edits' = some w →
      (∀ key, Option.Rel Same (Edit.leaves? (Edit.history given edits) key)
        (Edit.leaves? (Edit.history given' edits') key)) →
      (∀ key, v.propertyTag key = w.propertyTag key) ∧
      Guard.isObject v = Guard.isObject w ∧
      (∀ expected : Expectations, Guard.check v expected = Guard.check w expected ∧
        Guard.checkArray v expected = Guard.checkArray w expected) ∧
      (v.equals w = true ↔
        ∀ key item, Edit.leaves? (Edit.history given edits) key = some item → item.NaNFree) := by
  constructor
  · intro given edits
    rcases Edit.exists_runAll?_collect given edits with ⟨properties, hrun, hsorted, hfind⟩
    refine ⟨properties, hrun, hsorted.nodup_keys, hfind, ?_, ?_⟩
    · intro key item
      refine ⟨_, put?_object hsorted key item, ?_⟩
      intro other
      exact Entries.find?_insert key other item properties
    · intro key
      refine ⟨_, take?_object hsorted key, ?_⟩
      intro other
      exact Entries.find?_erase key other properties
  · intro given given' edits edits' v w hv hw hsame
    rcases Edit.exists_runAll?_collect given edits with ⟨as, has, hsorted, hfind⟩
    rcases Edit.exists_runAll?_collect given' edits' with ⟨bs, hbs, hsorted', hfind'⟩
    obtain rfl : object as = v := Option.some.inj (has.symm.trans hv)
    obtain rfl : object bs = w := Option.some.inj (hbs.symm.trans hw)
    simp only [← hfind, ← hfind'] at hsame ⊢
    have halike := alike_object_of_same hsame
    have helements : Guard.ElementsAlike (object as) (object bs) := .none
    exact ⟨halike.propertyTag_eq, halike.isObject_eq,
      fun expected => ⟨halike.check_eq expected, helements.checkArray_eq expected⟩,
      object_equals_iff_of_same hsorted hsorted' hsame⟩

/-- A string and a boolean under one numeral, given as a name and as an integer, and a symbol that is
unbound again leave what is left where the boolean alone is bound to the numeral later.  The objects
are equal, and a contract that asks for a string under the numeral is checked alike on both. -/
theorem objects_follow_last_bindings_numeral :
    ∃ v w,
      Edit.runAll? (collect [(.name "7", .string "x"), (.symbol ⟨1⟩, .null),
        (.integer 7, .bool true)]) [.take (.symbol ⟨1⟩)] = some v ∧
      Edit.runAll? (collect []) [.put (.name "7") (.bool true)] = some w ∧
      v.get? (.name "7") = some (.bool true) ∧
      v.equals w = true ∧
      Guard.check v (.ofList [(.name "7", .string)]) =
        Guard.check w (.ofList [(.name "7", .string)]) := by
  rcases objects_follow_last_bindings with ⟨hruns, hsame⟩
  rcases hruns [(.name "7", .string "x"), (.symbol ⟨1⟩, .null), (.integer 7, .bool true)]
    [.take (.symbol ⟨1⟩)] with ⟨as, has, -, hget, -, -⟩
  rcases hruns [] [.put (.name "7") (.bool true)] with ⟨bs, hbs, -, -, -, -⟩
  have hseven : PropertyKey.ofInt 7 = .name "7" := by decide
  have hname : PropertyKey.name "7" ≠ .symbol ⟨1⟩ := by decide
  have hleft : ∀ key,
      Edit.leaves? (Edit.history [(.name "7", .string "x"), (.symbol ⟨1⟩, .null),
        (.integer 7, .bool true)] [.take (.symbol ⟨1⟩)]) key =
        if PropertyKey.name "7" = key then some (.bool true) else none := by
    intro key
    by_cases hkey : PropertyKey.name "7" = key
    · subst hkey
      simp [Edit.leaves?, Edit.history, Edit.key, Edit.item?, GivenKey.canonical,
        hseven]
    · by_cases hsymbol : PropertyKey.symbol ⟨1⟩ = key
      · subst hsymbol
        simp [Edit.leaves?, Edit.history, Edit.key, Edit.item?]
      · simp [Edit.leaves?, Edit.history, Edit.key, GivenKey.canonical, hseven, hkey,
          hsymbol]
  have hright : ∀ key, Edit.leaves? (Edit.history [] [.put (.name "7") (.bool true)]) key =
      if PropertyKey.name "7" = key then some (.bool true) else none := by
    intro key
    by_cases hkey : PropertyKey.name "7" = key
    · simp [Edit.leaves?, Edit.history, Edit.key, Edit.item?, hkey]
    · simp [Edit.leaves?, Edit.history, Edit.key, hkey]
  rcases hsame _ _ _ _ _ _ has hbs
    (fun key => rel_same_of_eq ((hleft key).trans (hright key).symm)) with
    ⟨-, -, hchecks, hequal⟩
  refine ⟨_, _, has, hbs, ?_, ?_, (hchecks _).1⟩
  · rw [hget, hleft, if_pos rfl]
  · rw [hequal]
    intro key item hitem
    rw [hleft] at hitem
    split at hitem
    · cases hitem
      exact equals_self_iff.mp (by decide)
    · contradiction

end Value
end DuckTyping
