/-!
# Property keys

A property is addressed by a name or by a symbol.  Integers address properties through their
decimal numeral, so `0` and `"0"` are one key, and arrays answer to the names that are numerals of
positions.

Main definitions:

- `SymbolId`: the identity of a symbol, with the order in which symbols are created.
- `PropertyKey`: a name or a symbol; names come before symbols.
- `PropertyKey.ofInt`: the key of an integer.
- `PropertyKey.arrayIndex?`: the position that a key addresses in an array.

Main results:

- instances `Std.TransOrd PropertyKey` and `Std.LawfulEqOrd PropertyKey`: the order of keys is a
  total order that agrees with equality.
-/

namespace DuckTyping

/-! ## Symbols -/

/-- The identity of a symbol: two symbols are the same exactly when their numbers are. -/
structure SymbolId where
  /-- The number that the symbol got when it was created. -/
  number : UInt64
deriving DecidableEq, Repr, Inhabited

namespace SymbolId

/-- Symbols are ordered by creation. -/
instance : Ord SymbolId where
  compare a b := compare a.number b.number

instance : Std.TransOrd SymbolId where
  eq_swap := Std.OrientedOrd.eq_swap (α := UInt64)
  isLE_trans := Std.TransOrd.isLE_trans (α := UInt64)

instance : Std.LawfulEqOrd SymbolId where
  compare_self := Std.ReflOrd.compare_self (α := UInt64)
  eq_of_compare {a b} h := by
    rcases a with ⟨a⟩
    rcases b with ⟨b⟩
    exact congrArg mk (Std.LawfulEqOrd.eq_of_compare (α := UInt64) h)

/-- How a symbol is shown where a name could stand. -/
def display (id : SymbolId) : String :=
  "Symbol(" ++ Nat.repr id.number.toNat ++ ")"

/-- The symbol that is created after a given number of others.  Numbers start at one and wrap around
at `2 ^ 64`. -/
def afterCount (created : Nat) : SymbolId :=
  ⟨UInt64.ofNat (created + 1)⟩

end SymbolId

/-! ## Keys -/

/-- The key of a property. -/
inductive PropertyKey where
  | name (text : String)
  | symbol (id : SymbolId)
deriving DecidableEq, Repr, Inhabited

namespace PropertyKey

/-- Names are ordered by code points, symbols by creation, and names come before symbols. -/
def order : PropertyKey → PropertyKey → Ordering
  | name a, name b => compare a b
  | name _, symbol _ => .lt
  | symbol _, name _ => .gt
  | symbol a, symbol b => compare a b

instance : Ord PropertyKey where
  compare := order

@[simp]
theorem compare_name (a b : String) : compare (name a) (name b) = compare a b :=
  rfl

@[simp]
theorem compare_symbol (a b : SymbolId) : compare (symbol a) (symbol b) = compare a b :=
  rfl

@[simp]
theorem compare_name_symbol (a : String) (b : SymbolId) : compare (name a) (symbol b) = .lt :=
  rfl

@[simp]
theorem compare_symbol_name (a : SymbolId) (b : String) : compare (symbol a) (name b) = .gt :=
  rfl

/-- Keys are totally ordered. -/
instance : Std.TransOrd PropertyKey where
  eq_swap {a b} := by
    cases a <;> cases b
    · exact Std.OrientedOrd.eq_swap (α := String)
    · rfl
    · rfl
    · exact Std.OrientedOrd.eq_swap (α := SymbolId)
  isLE_trans {a b c} hab hbc := by
    cases a <;> cases b <;> cases c <;> simp_all
    · exact Std.TransOrd.isLE_trans hab hbc
    · exact Std.TransOrd.isLE_trans hab hbc

/-- Keys that compare as equal are equal. -/
instance : Std.LawfulEqOrd PropertyKey where
  compare_self {a} := by cases a <;> simp
  eq_of_compare {a b} h := by cases a <;> cases b <;> simp_all

/-- The name of a key that is not a symbol. -/
def asName? : PropertyKey → Option String
  | name text => some text
  | symbol _ => none

/-- Whether a key is a symbol. -/
def isSymbol : PropertyKey → Bool
  | name _ => false
  | symbol _ => true

/-- How a key is shown. -/
def display : PropertyKey → String
  | name text => text
  | symbol id => id.display

/-- The key of an integer is its decimal numeral. -/
def ofInt (n : Int) : PropertyKey :=
  name (toString n)

/-! ## Positions -/

/-- The number that a list of decimal digits denotes. -/
def digitsValue (digits : List Char) : Nat :=
  digits.foldl (fun value digit => value * 10 + (digit.toNat - '0'.toNat)) 0

/-- The number whose decimal numeral is a given text: a non-empty sequence of digits with no
leading zero other than that of `0` itself. -/
def numeral? (text : List Char) : Option Nat :=
  if text = [] then none
  else if !text.all Char.isDigit then none
  else if text.length > 1 ∧ text.head? = some '0' then none
  else some (digitsValue text)

/-- One more than the greatest position that a key can address in an array. -/
def indexLimit : Nat :=
  0xFFFFFFFF

/-- The position that a key addresses in an array: a name that is the numeral of a number below
the limit. -/
def arrayIndex? : PropertyKey → Option Nat
  | name text => (numeral? text.toList).filter (· < indexLimit)
  | symbol _ => none

end PropertyKey

end DuckTyping
