import DuckTyping.Double

/-!
# Shortest decimal text

A finite number is shown by the fewest decimal digits that read back as the same number; among
those, by the digits nearest to its exact value.  Candidates are the points of decimal grids, tried
from the coarsest to the finest, and all comparisons are between natural numbers.

Main definitions:

- `Double.Decimal`: decimal digits with the exponent of the first of them.
- `Double.shortest`: the decimal that a finite number is shown by.
- `Double.Layout`: where positional notation ends.
- `Double.display`: the text of a finite number.
-/

namespace DuckTyping
namespace Double

/-! ## Grids -/

/-- The number of quarter units in one: a quarter unit divides every distance from a number to the
bounds of what rounds to it. -/
def quartersPerOne : Nat :=
  4 * unitsPerOne

/-- The magnitude in quarter units. -/
def quarters (x : Double) : Nat :=
  4 * x.units

/-- The least magnitude, in quarter units, that may round to the number.  Below a power of two the
numbers lie twice as dense as above it. -/
def lowerBound (x : Double) : Nat :=
  x.quarters -
    if x.fraction = 0 ∧ 1 < x.exponentField then Nat.pow 2 x.scale else 2 * Nat.pow 2 x.scale

/-- The greatest magnitude, in quarter units, that may round to the number. -/
def upperBound (x : Double) : Nat :=
  x.quarters + 2 * Nat.pow 2 x.scale

/-- A grid of decimals: the multiples of a power of ten. -/
structure Grid where
  /-- The exponent of the power of ten. -/
  exponent : Int

namespace Grid

/-- The distance between neighbours of the grid in quarter units, as a numerator over
`Grid.denominator`. -/
def step (grid : Grid) : Nat :=
  Nat.pow 10 grid.exponent.toNat * quartersPerOne

/-- The denominator that makes all distances on the grid whole. -/
def denominator (grid : Grid) : Nat :=
  Nat.pow 10 (-grid.exponent).toNat

/-- Whether a point of the grid reads back as the number.  A bound itself goes to the number with
the even significand. -/
def readsBack (grid : Grid) (x : Double) (point : Nat) : Bool :=
  let place := point * grid.step
  let low := x.lowerBound * grid.denominator
  let high := x.upperBound * grid.denominator
  if x.significand % 2 = 0 then decide (low ≤ place ∧ place ≤ high)
  else decide (low < place ∧ place < high)

/-- The greatest point of the grid that is not above the number. -/
def floor (grid : Grid) (x : Double) : Nat :=
  x.quarters * grid.denominator / grid.step

/-- The point of the grid that reads back as the number, if one does: of two such neighbours the
nearer, and of two that are equally near the even one. -/
def point? (grid : Grid) (x : Double) : Option Nat :=
  let below := grid.floor x
  let above := below + 1
  match grid.readsBack x below, grid.readsBack x above with
  | false, false => none
  | true, false => some below
  | false, true => some above
  | true, true =>
    let value := 2 * x.quarters * grid.denominator
    let middle := (below + above) * grid.step
    if value < middle then some below
    else if middle < value then some above
    else if below % 2 = 0 then some below else some above

end Grid

/-! ## Shortest digits -/

/-- A decimal: its digits and the exponent of the first digit. -/
structure Decimal where
  /-- At least one digit; the last is not zero unless it is the only one. -/
  digits : List Char
  /-- The power of ten that the first digit counts. -/
  exponent : Int
deriving DecidableEq, Repr

namespace Decimal

/-- Drop the zeros at the end of a list of digits. -/
def trimZeros (digits : List Char) : List Char :=
  (digits.reverse.dropWhile (· == '0')).reverse

/-- The decimal of a point on a grid. -/
def ofPoint (grid : Grid) (point : Nat) : Decimal where
  digits := if point = 0 then ['0'] else trimZeros (Nat.toDigits 10 point)
  exponent := grid.exponent + ((Nat.toDigits 10 point).length - 1 : Nat)

end Decimal

/-- The exponent of the leading decimal digit of a finite number other than zero. -/
def leadingExponent (x : Double) : Int :=
  let whole := x.units / unitsPerOne
  if whole = 0 then
    let zeros := (List.range 324).find? fun zeros =>
      decide (unitsPerOne ≤ x.units * Nat.pow 10 (zeros + 1))
    Int.negSucc (zeros.getD 323)
  else
    ((Nat.toDigits 10 whole).length - 1 : Nat)

/-- The decimal that a finite number is shown by: the point that reads back on the coarsest grid
that has one.  Seventeen digits always suffice. -/
def shortest (x : Double) : Decimal :=
  if x.units = 0 then ⟨['0'], 0⟩
  else
    let leading := x.leadingExponent
    let found := (List.range 17).findSome? fun (more : Nat) =>
      let grid : Grid := ⟨leading - more⟩
      (grid.point? x).map (Decimal.ofPoint grid)
    found.getD ⟨['0'], 0⟩

/-! ## Notation -/

/-- The exponents of the first digit for which a number is written positionally. -/
structure Layout where
  /-- The least exponent written positionally. -/
  least : Int
  /-- The greatest exponent written positionally. -/
  greatest : Int

namespace Layout

/-- Digits with a decimal point and at least one decimal. -/
def positional (decimal : Decimal) : List Char :=
  if decimal.exponent < 0 then
    '0' :: '.' :: List.replicate ((-decimal.exponent).toNat - 1) '0' ++ decimal.digits
  else
    let wholeLength := decimal.exponent.toNat + 1
    let padding := List.replicate (wholeLength - decimal.digits.length) '0'
    let decimals := decimal.digits.drop wholeLength
    decimal.digits.take wholeLength ++ padding ++
      '.' :: if decimals = [] then ['0'] else decimals

/-- One digit, the others as decimals if there are any, and a signed exponent. -/
def scientific (decimal : Decimal) : List Char :=
  let decimals := decimal.digits.drop 1
  decimal.digits.take 1 ++ (if decimals = [] then [] else '.' :: decimals) ++
    'e' :: (if decimal.exponent < 0 then '-' else '+') ::
      Nat.toDigits 10 decimal.exponent.natAbs

/-- A decimal in the notation that its exponent calls for. -/
def write (layout : Layout) (decimal : Decimal) : List Char :=
  if layout.least ≤ decimal.exponent ∧ decimal.exponent ≤ layout.greatest then
    positional decimal
  else
    scientific decimal

end Layout

/-- Numbers are written positionally from the fifth decimal up to sixteen digits before the
point. -/
def layout : Layout :=
  ⟨-5, 15⟩

/-- The text of a finite number. -/
def display (x : Double) : String :=
  String.ofList ((if x.negative then ['-'] else []) ++ layout.write x.shortest)

end Double
end DuckTyping
