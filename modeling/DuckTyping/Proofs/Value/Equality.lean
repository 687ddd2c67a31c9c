import DuckTyping.Proofs.Bindings
import DuckTyping.Proofs.Value.Parts
import DuckTyping.Value.Equality

/-!
# Equality is a partial equivalence

Values are compared level by level: the contents of leaves, the elements of arrays one by one, the
properties of objects key by key.  The comparison of leaves is symmetric and transitive, and so is
therefore that of values.  It is reflexive except that NaN is equal to nothing, so a value is equal
to itself exactly when no NaN stands in it at any depth.

Main definitions:

- `Value.Matches`: one level of the comparison, for any relation of what stands below.

Main results:

- `Double.equals_iff`: equality of numbers.
- `Value.equals_iff_matches`: equality in terms of one level.
- `Value.equals_symm`, `Value.equals_trans`, `Value.equals_self_iff`: symmetry, transitivity, and
  the values that are equal to themselves.
- `Value.object_equals_iff`: equality of objects by their sizes and by looking up each key of one of
  them in the other.
- `Value.equality_partial_equivalence`: all of this, with what identity means for symbols and
  functions.
-/

namespace DuckTyping

/-! ## Numbers -/

namespace Double

/-- Numbers are equal when they are the same word or both zero, and neither is NaN. -/
theorem equals_iff {x y : Double} :
    x.equals y = true ↔
      x.isNaN = false ∧ y.isNaN = false ∧ (x = y ∨ x.isZero = true ∧ y.isZero = true) := by
  have hbits : x.bits = y.bits ↔ x = y := by
    cases x
    cases y
    simp
  simp only [equals, Bool.and_eq_true, Bool.not_eq_true', Bool.or_eq_true, beq_iff_eq, hbits,
    and_assoc]

theorem equals_self_iff {x : Double} : x.equals x = true ↔ x.isNaN = false := by
  simp [equals_iff]

theorem equals_symm {x y : Double} (h : x.equals y = true) : y.equals x = true := by
  rw [equals_iff] at h ⊢
  rcases h with ⟨hx, hy, rfl | ⟨hzero, hzero'⟩⟩
  · exact ⟨hx, hx, Or.inl rfl⟩
  · exact ⟨hy, hx, Or.inr ⟨hzero', hzero⟩⟩

theorem equals_trans {x y z : Double} (hxy : x.equals y = true) (hyz : y.equals z = true) :
    x.equals z = true := by
  rw [equals_iff] at hxy hyz ⊢
  rcases hxy with ⟨hx, -, rfl | ⟨hzero, hzero'⟩⟩
  · exact hyz
  · rcases hyz with ⟨-, hz, rfl | ⟨-, hzero''⟩⟩
    · exact ⟨hx, hz, Or.inr ⟨hzero, hzero'⟩⟩
    · exact ⟨hx, hz, Or.inr ⟨hzero, hzero''⟩⟩

end Double

/-! ## Lists of related things -/

section Related

variable {α : Type} {r : α → α → Prop} {as bs cs : List α}

theorem forall₂_symm_of_mem (h : List.Forall₂ r as bs) (hsymm : ∀ a ∈ as, ∀ b, r a b → r b a) :
    List.Forall₂ r bs as := by
  have hboth := (List.forall₂_and_left as bs).mpr ⟨hsymm, h⟩
  exact List.Forall₂.flip (hboth.imp fun _ b hab => hab.1 b hab.2)

theorem forall₂_trans_of_mem (hab : List.Forall₂ r as bs) (hbc : List.Forall₂ r bs cs)
    (htrans : ∀ a ∈ as, ∀ b c, r a b → r b c → r a c) : List.Forall₂ r as cs := by
  induction hab generalizing cs with
  | nil =>
    cases hbc
    exact .nil
  | @cons a b as bs hhead _ ih =>
    rcases hbc with _ | ⟨hhead', hrest'⟩
    rw [List.forall_mem_cons] at htrans
    exact .cons (htrans.1 b _ hhead hhead') (ih hrest' htrans.2)

end Related

namespace Value

/-! ## One level of the comparison -/

/-- Two values are of the same form, with the same content up to a relation of their elements and
of the values of their properties. -/
inductive Matches (same : Value → Value → Prop) : Value → Value → Prop where
  | undefined : Matches same undefined undefined
  | null : Matches same null null
  | bool (value : Bool) : Matches same (bool value) (bool value)
  | number {x y : Double} (h : x.equals y = true) : Matches same (number x) (number y)
  | bigint (value : Int) : Matches same (bigint value) (bigint value)
  | string (text : String) : Matches same (string text) (string text)
  | symbol {s t : Symbol} (h : s.id = t.id) : Matches same (symbol s) (symbol t)
  | function {f g : Function} (h : f.id = g.id) : Matches same (function f) (function g)
  | array {as bs : List Value} (h : List.Forall₂ same as bs) : Matches same (array as) (array bs)
  | object {as bs : List (PropertyKey × Value)} (h : List.Forall₂ (Entries.Related same) as bs) :
      Matches same (object as) (object bs)

theorem elementsEqual_iff {as bs : List Value} :
    elementsEqual as bs = true ↔ List.Forall₂ (fun a b => a.equals b = true) as bs := by
  induction as generalizing bs with
  | nil => cases bs <;> simp [elementsEqual]
  | cons a as ih => cases bs <;> simp [elementsEqual, ih]

theorem propertiesEqual_iff {as bs : List (PropertyKey × Value)} :
    propertiesEqual as bs = true ↔
      List.Forall₂ (Entries.Related fun a b => a.equals b = true) as bs := by
  induction as generalizing bs with
  | nil => cases bs <;> simp [propertiesEqual]
  | cons a as ih => cases bs <;> simp [propertiesEqual, ih, Entries.Related]

/-- Values are equal exactly when they match level by level. -/
theorem equals_iff_matches {u v : Value} :
    u.equals v = true ↔ Matches (fun a b => a.equals b = true) u v := by
  constructor
  · intro h
    cases u <;> cases v <;> simp only [equals, beq_iff_eq, Bool.false_eq_true] at h
    case undefined.undefined => exact .undefined
    case null.null => exact .null
    case bool.bool a b => exact h ▸ .bool a
    case number.number x y => exact .number h
    case bigint.bigint a b => exact h ▸ .bigint a
    case string.string a b => exact h ▸ .string a
    case symbol.symbol s t => exact .symbol h
    case function.function f g => exact .function h
    case array.array as bs => exact .array (elementsEqual_iff.mp h)
    case object.object as bs => exact .object (propertiesEqual_iff.mp h)
  · intro h
    cases h with
    | undefined | null => rfl
    | bool _ | bigint _ | string _ => simp only [equals, beq_self_eq_true]
    | number h => exact h
    | symbol h | function h => simp only [equals, h, beq_self_eq_true]
    | array h => exact elementsEqual_iff.mpr h
    | object h => exact propertiesEqual_iff.mpr h

/-! ## Symmetry and transitivity -/

theorem equals_symm {u v : Value} (h : u.equals v = true) : v.equals u = true := by
  induction u using nestedInduction generalizing v with
  | leaf u hleaf =>
    rw [equals_iff_matches] at h ⊢
    cases h with
    | undefined => exact .undefined
    | null => exact .null
    | bool value => exact .bool value
    | number h => exact .number (Double.equals_symm h)
    | bigint value => exact .bigint value
    | string text => exact .string text
    | symbol h => exact .symbol h.symm
    | function h => exact .function h.symm
    | array _ | object _ => contradiction
  | array elements ih =>
    rw [equals_iff_matches] at h ⊢
    cases h with
    | array h =>
      refine .array (forall₂_symm_of_mem h ?_)
      intro element hmem other hequal
      exact ih element hmem hequal
  | object properties ih =>
    rw [equals_iff_matches] at h ⊢
    cases h with
    | object h =>
      refine .object (forall₂_symm_of_mem h ?_)
      intro entry hmem other hequal
      exact ⟨hequal.1.symm, ih entry hmem hequal.2⟩

theorem equals_trans {u v w : Value} (huv : u.equals v = true) (hvw : v.equals w = true) :
    u.equals w = true := by
  induction u using nestedInduction generalizing v w with
  | leaf u hleaf =>
    rw [equals_iff_matches] at huv hvw ⊢
    cases huv with
    | undefined | null | bool _ | bigint _ | string _ => exact hvw
    | number h =>
      cases hvw with
      | number h' => exact .number (Double.equals_trans h h')
    | symbol h =>
      cases hvw with
      | symbol h' => exact .symbol (h.trans h')
    | function h =>
      cases hvw with
      | function h' => exact .function (h.trans h')
    | array _ | object _ => contradiction
  | array elements ih =>
    rw [equals_iff_matches] at huv hvw ⊢
    cases huv with
    | array h =>
      cases hvw with
      | array h' =>
        refine .array (forall₂_trans_of_mem h h' ?_)
        intro element hmem _ _ hequal hequal'
        exact ih element hmem hequal hequal'
  | object properties ih =>
    rw [equals_iff_matches] at huv hvw ⊢
    cases huv with
    | object h =>
      cases hvw with
      | object h' =>
        refine .object (forall₂_trans_of_mem h h' ?_)
        intro entry hmem _ _ hequal hequal'
        exact ⟨hequal.1.trans hequal'.1, ih entry hmem hequal.2 hequal'.2⟩

/-! ## Reflexivity -/

/-- No number in a value is NaN, at any depth. -/
def NaNFree (value : Value) : Prop :=
  ∀ x, PartOf (number x) value → x.isNaN = false

theorem nanFree_array_iff {elements : List Value} :
    (array elements).NaNFree ↔ ∀ element ∈ elements, element.NaNFree := by
  simp only [NaNFree, partOf_array_iff, reduceCtorEq, false_or]
  grind

theorem nanFree_object_iff {properties : List (PropertyKey × Value)} :
    (object properties).NaNFree ↔ ∀ entry ∈ properties, entry.2.NaNFree := by
  simp only [NaNFree, partOf_object_iff, reduceCtorEq, false_or]
  grind

/-- A value is equal to itself exactly when no NaN stands in it. -/
theorem equals_self_iff {value : Value} : value.equals value = true ↔ value.NaNFree := by
  induction value using nestedInduction with
  | leaf value hleaf =>
    simp only [NaNFree, partOf_leaf_iff hleaf]
    cases value with
    | number x => simp [equals, Double.equals_self_iff]
    | array _ | object _ => contradiction
    | undefined | null | bool _ | bigint _ | string _ | symbol _ | function _ => simp [equals]
  | array elements ih =>
    rw [nanFree_array_iff, equals, elementsEqual_iff, List.forall₂_same]
    exact forall₂_congr ih
  | object properties ih =>
    rw [nanFree_object_iff, equals, propertiesEqual_iff, List.forall₂_same]
    simp only [Entries.Related, true_and]
    exact forall₂_congr ih

/-! ## Variants -/

/-- Values of different variants are not equal. -/
theorem ctorIdx_eq_of_equals {u v : Value} (h : u.equals v = true) : u.ctorIdx = v.ctorIdx := by
  rw [equals_iff_matches] at h
  cases h <;> rfl

/-- A symbol is equal to the values that are the same symbol, whatever their descriptions. -/
theorem symbol_equals_iff {s : Symbol} {v : Value} :
    (symbol s).equals v = true ↔ ∃ t, v = symbol t ∧ t.id = s.id := by
  rw [equals_iff_matches]
  constructor
  · intro h
    cases h with
    | symbol h => exact ⟨_, rfl, h.symm⟩
  · rintro ⟨t, rfl, h⟩
    exact .symbol h.symm

/-- A function is equal to the values that are the same function, whatever their names and
bodies. -/
theorem function_equals_iff {f : Function} {v : Value} :
    (function f).equals v = true ↔ ∃ g, v = function g ∧ g.id = f.id := by
  rw [equals_iff_matches]
  constructor
  · intro h
    cases h with
    | function h => exact ⟨_, rfl, h.symm⟩
  · rintro ⟨g, rfl, h⟩
    exact .function h.symm

/-! ## Objects -/

/-- Objects are equal exactly when they have as many properties and each property of one of them is
bound in the other, to an equal value. -/
theorem object_equals_iff {as bs : List (PropertyKey × Value)} (has : Entries.Sorted as)
    (hbs : Entries.Sorted bs) :
    (object as).equals (object bs) = true ↔
      as.length = bs.length ∧ ∀ key a, Entries.find? key as = some a →
        ∃ b, Entries.find? key bs = some b ∧ a.equals b = true := by
  rw [equals, propertiesEqual_iff, has.forall₂_related_iff hbs]

/-! ## Partial equivalence -/

/-- Equality of values is symmetric and transitive, and reflexive on the values without NaN.

- A value is equal to itself, and so to a copy of itself, exactly when no number in it is NaN,
  however deep it stands in elements and properties.
- Symbols and functions are equal exactly when their identities are, whatever their descriptions,
  names and bodies.
- Objects are equal exactly when they have as many properties and each key of one of them is bound
  in the other to an equal value; the order in which their properties were given does not matter.
- Values of different variants are never equal, such as a number and an integer of arbitrary
  size. -/
theorem equality_partial_equivalence :
    (∀ u v : Value, u.equals v = true → v.equals u = true) ∧
    (∀ u v w : Value, u.equals v = true → v.equals w = true → u.equals w = true) ∧
    (∀ v : Value, v.equals v = true ↔ ∀ x, PartOf (number x) v → x.isNaN = false) ∧
    (∀ (s : Symbol) (v : Value),
      (symbol s).equals v = true ↔ ∃ t, v = symbol t ∧ t.id = s.id) ∧
    (∀ (f : Function) (v : Value),
      (function f).equals v = true ↔ ∃ g, v = function g ∧ g.id = f.id) ∧
    (∀ as bs : List (PropertyKey × Value), (object as).WellFormed → (object bs).WellFormed →
      ((object as).equals (object bs) = true ↔
        as.length = bs.length ∧ ∀ key a, Entries.find? key as = some a →
          ∃ b, Entries.find? key bs = some b ∧ a.equals b = true)) ∧
    (∀ xs ys : List (PropertyKey × Value), xs.Perm ys → (xs.map Prod.fst).Nodup →
      ∀ v : Value, (ofEntries xs).equals v = (ofEntries ys).equals v) ∧
    (∀ u v : Value, u.ctorIdx ≠ v.ctorIdx → u.equals v = false) ∧
    ∀ (x : Double) (n : Int), (number x).equals (bigint n) = false := by
  refine ⟨fun _ _ => equals_symm, fun _ _ _ => equals_trans, fun _ => equals_self_iff,
    fun _ _ => symbol_equals_iff, fun _ _ => function_equals_iff, ?_, ?_, ?_, fun _ _ => rfl⟩
  · intro as bs has hbs
    rw [WellFormed] at has hbs
    exact object_equals_iff has.1 hbs.1
  · intro xs ys hperm hnodup v
    rw [ofEntries, ofEntries, Entries.ofList_eq_of_perm hperm hnodup]
  · intro u v hne
    rw [Bool.eq_false_iff]
    exact mt ctorIdx_eq_of_equals hne

/-- Objects that hold the two zeros are equal, either way round, and so is each of them to itself;
an object that holds NaN in an array is not.  Two properties can be given in either order. -/
theorem equality_partial_equivalence_zeros :
    (object [(.name "a", number ⟨0⟩)]).equals
        (object [(.name "a", number ⟨0x8000000000000000⟩)]) = true ∧
      (object [(.name "a", number ⟨0x8000000000000000⟩)]).equals
        (object [(.name "a", number ⟨0⟩)]) = true ∧
      (object [(.name "a", number ⟨0⟩)]).equals (object [(.name "a", number ⟨0⟩)]) = true ∧
      ((object [(.name "a", number ⟨0⟩)]).equals (object [(.name "b", null)]) = true ↔
        [(PropertyKey.name "a", number ⟨0⟩)].length = [(PropertyKey.name "b", null)].length ∧
          ∀ key a, Entries.find? key [(PropertyKey.name "a", number ⟨0⟩)] = some a →
            ∃ b, Entries.find? key [(PropertyKey.name "b", null)] = some b ∧
              a.equals b = true) ∧
      (object [(.name "a", array [number .nan])]).equals
        (object [(.name "a", array [number .nan])]) = false ∧
      (∀ v : Value, (ofEntries [(.name "a", null), (.symbol ⟨1⟩, undefined)]).equals v =
        (ofEntries [(.symbol ⟨1⟩, undefined), (.name "a", null)]).equals v) ∧
      (array []).equals (object []) = false := by
  have hzeros : (object [(.name "a", number ⟨0⟩)]).equals
      (object [(.name "a", number ⟨0x8000000000000000⟩)]) = true := by decide
  rcases equality_partial_equivalence with
    ⟨hsymm, htrans, hself, -, -, hobject, hperm, hvariant, -⟩
  have hzeros' := hsymm _ _ hzeros
  refine ⟨hzeros, hzeros', htrans _ _ _ hzeros hzeros', ?_, ?_, ?_, hvariant _ _ (by decide)⟩
  · apply hobject
    · simp [WellFormed, PropertiesWellFormed, Entries.Sorted]
    · simp [WellFormed, PropertiesWellFormed, Entries.Sorted]
  · rw [Bool.eq_false_iff]
    intro h
    have hnumber := (hself _).mp h .nan
      (.property List.mem_cons_self (.element List.mem_cons_self (.whole _)))
    revert hnumber
    decide
  · exact hperm _ _ (.swap _ _ _) (by decide)

end Value
end DuckTyping
