/-!
# Double-precision numbers

A `Double` is the 64-bit word of a binary floating-point number.  Keeping the word makes every
question about a number, its sign, its value or its neighbours, a question about natural numbers.

A finite number is a whole number of units of `2 ^ (-1074)`, the least positive magnitude, so its
exact value is an integer divided by `2 ^ 1074`.  Rounding is done in that unit on fractions of
natural numbers, and is exact up to its one final step.

Main definitions:

- `Double.isNaN`, `Double.isInfinite`, `Double.isFinite`, `Double.negative`: classes of words.
- `Double.units`: the magnitude of a finite number in units of `2 ^ (-1074)`.
- `Double.toRat`: the exact value of a finite number.
- `Double.nearest`: the number nearest to a fraction, a tie going to the even significand.
- `Double.ofInt`, `Double.ofSingle`: conversion of integers and of single-precision words.
- `Double.mul`, `Double.div`, `Double.twice`: correctly rounded arithmetic.
- `Double.equals`: numeric equality, in which no NaN takes part and the two zeros are equal.
-/

namespace DuckTyping

/-- A double-precision number, given by its 64-bit word. -/
structure Double where
  /-- The word: a sign bit, eleven bits of exponent and fifty-two bits of fraction. -/
  bits : UInt64
deriving DecidableEq, Repr, Inhabited

namespace Double

/-! ## Fields -/

/-- The weight of the sign bit. -/
def signWeight : Nat :=
  Nat.pow 2 63

/-- The least word of a normal number; it is also the number of fractions per exponent. -/
def fractionLimit : Nat :=
  Nat.pow 2 52

/-- The word of positive infinity, above which lie the words of NaN. -/
def infinityWord : Nat :=
  2047 * fractionLimit

/-- Whether the sign bit is set. -/
def negative (x : Double) : Bool :=
  decide (signWeight ≤ x.bits.toNat)

/-- The word without its sign bit. -/
def magnitudeWord (x : Double) : Nat :=
  x.bits.toNat % signWeight

/-- The exponent field. -/
def exponentField (x : Double) : Nat :=
  x.magnitudeWord / fractionLimit

/-- The fraction field. -/
def fraction (x : Double) : Nat :=
  x.magnitudeWord % fractionLimit

/-- Whether the word stands for no number. -/
def isNaN (x : Double) : Bool :=
  decide (infinityWord < x.magnitudeWord)

/-- Whether the word stands for one of the two infinities. -/
def isInfinite (x : Double) : Bool :=
  decide (x.magnitudeWord = infinityWord)

/-- Whether the word stands for a number with an exact value. -/
def isFinite (x : Double) : Bool :=
  decide (x.magnitudeWord < infinityWord)

/-- Whether the word stands for one of the two zeros. -/
def isZero (x : Double) : Bool :=
  decide (x.magnitudeWord = 0)

/-- The number with a given sign and a given word without the sign bit. -/
def ofMagnitude (negative : Bool) (word : Nat) : Double :=
  ⟨UInt64.ofNat (word + if negative then signWeight else 0)⟩

/-- The infinity of a given sign. -/
def infinity (negative : Bool) : Double :=
  ofMagnitude negative infinityWord

/-- A word that stands for no number. -/
def nan : Double :=
  ofMagnitude false (infinityWord + Nat.pow 2 51)

/-! ## Exact values -/

/-- The number of units of `2 ^ (-1074)` in one. -/
def unitsPerOne : Nat :=
  Nat.pow 2 1074

/-- The significand of a finite number: the fraction, with the leading bit of a normal number. -/
def significand (x : Double) : Nat :=
  if x.exponentField = 0 then x.fraction else fractionLimit + x.fraction

/-- The power of two that the significand is scaled by, in units of `2 ^ (-1074)`. -/
def scale (x : Double) : Nat :=
  x.exponentField - 1

/-- The magnitude of a finite number in units of `2 ^ (-1074)`. -/
def units (x : Double) : Nat :=
  x.significand * Nat.pow 2 x.scale

/-- The exact value of a finite number. -/
def toRat (x : Double) : Rat :=
  (if x.negative then -(x.units : Int) else (x.units : Int)) / (unitsPerOne : Rat)

/-! ## Rounding -/

/-- The integer nearest to a fraction, a tie going to the even neighbour. -/
def roundHalfEven (numerator denominator : Nat) : Nat :=
  let quotient := numerator / denominator
  let remainder := numerator % denominator
  if 2 * remainder < denominator then quotient
  else if denominator < 2 * remainder then quotient + 1
  else quotient + quotient % 2

/-- The binade of a fraction of units: how often its significand of 53 bits is to be doubled. -/
def binade (numerator denominator : Nat) : Nat :=
  (numerator / denominator).log2 - 52

/-- The word of the magnitude nearest to a fraction of units.  The significand of the binade is
rounded and added to the binade's share of the word, so that a carry moves on to the next binade,
and a result beyond the greatest finite number is infinite. -/
def nearestWord (numerator denominator : Nat) : Nat :=
  let shift := binade numerator denominator
  min (shift * fractionLimit + roundHalfEven numerator (denominator * Nat.pow 2 shift))
    infinityWord

/-- The number of a given sign whose magnitude is nearest to a fraction of units of
`2 ^ (-1074)`, a tie going to the even significand. -/
def nearest (negative : Bool) (numerator denominator : Nat) : Double :=
  ofMagnitude negative (nearestWord numerator denominator)

/-- The number nearest to an integer; zero is positive. -/
def ofInt (n : Int) : Double :=
  nearest (decide (n < 0)) (n.natAbs * unitsPerOne) 1

/-- The number nearest to a natural number. -/
def ofNat (n : Nat) : Double :=
  nearest false (n * unitsPerOne) 1

/-! ## Arithmetic -/

/-- The number with the sign turned over. -/
def neg (x : Double) : Double :=
  ofMagnitude (!x.negative) x.magnitudeWord

/-- The product of two finite numbers. -/
def mul (x y : Double) : Double :=
  nearest (x.negative != y.negative) (x.units * y.units) unitsPerOne

/-- The quotient of a finite number by a finite number other than zero. -/
def div (x y : Double) : Double :=
  nearest (x.negative != y.negative) (x.units * unitsPerOne) y.units

/-- Twice a number; infinities and NaN stay what they are. -/
def twice (x : Double) : Double :=
  if x.isFinite then nearest x.negative (2 * x.units) 1 else x

/-- Numeric equality: no NaN is equal to anything, and the two zeros are equal. -/
def equals (x y : Double) : Bool :=
  !x.isNaN && !y.isNaN && (x.bits == y.bits || (x.isZero && y.isZero))

/-! ## Single precision -/

/-- The number that a single-precision word denotes: a sign bit, eight bits of exponent and
twenty-three bits of fraction.  Every finite single-precision number is a whole number of units of
`2 ^ (-149)`, hence widens exactly. -/
def ofSingle (word : UInt32) : Double :=
  let negative := decide (Nat.pow 2 31 ≤ word.toNat)
  let exponent := word.toNat % Nat.pow 2 31 / Nat.pow 2 23
  let fraction := word.toNat % Nat.pow 2 23
  if exponent = 255 then
    if fraction = 0 then infinity negative else nan
  else if exponent = 0 then
    nearest negative (fraction * Nat.pow 2 925) 1
  else
    nearest negative
      ((Nat.pow 2 23 + fraction) * Nat.pow 2 (exponent - 1) * Nat.pow 2 925) 1

end Double

end DuckTyping
