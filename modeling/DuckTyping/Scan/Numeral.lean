import DuckTyping.Document
import DuckTyping.Scan.Failure

/-!
# Numbers

A number without fraction and exponent that fits a 64-bit word is an integer.  All others are
doubles, worked out in a fixed way that may differ from the nearest double in the last place: the
digits are gathered into one 64-bit word, the word is rounded to a double, and the double is
multiplied or divided by a power of ten.

Main definitions:

- `Scan.gather`: how many digits fit into the word, and what they amount to.
- `Scan.scaled?`: a word times a power of ten as a double.
- `Scan.number`: take a number after its sign.
-/

namespace DuckTyping
namespace Scan

/-! ## Digits -/

/-- The least number that does not fit a word. -/
def wordLimit : Nat :=
  0x10000000000000000

/-- The greatest exponent that is worked with as it is written. -/
def exponentLimit : Nat :=
  0x7FFFFFFF

/-- The value of a decimal digit. -/
def digitValue (c : Char) : Nat :=
  c.toNat - '0'.toNat

/-- Append digits to a word as long as it does not overflow; the result is the word and the number
of digits appended. -/
def gather (word : Nat) : List Char → Nat × Nat
  | [] => (word, 0)
  | digit :: digits =>
    let longer := word * 10 + digitValue digit
    if longer < wordLimit then
      let (result, count) := gather longer digits
      (result, count + 1)
    else
      (word, 0)

/-- Take the digits at the front. -/
def digits (text : List Char) : List Char × List Char :=
  (text.takeWhile Char.isDigit, text.dropWhile Char.isDigit)

/-- Take the digits of the integer part: a zero stands alone. -/
def wholeDigits : Scanner (List Char)
  | [] => failHere .endInValue []
  | c :: text =>
    if c = '0' then
      match text with
      | [] => .ok (['0'], [])
      | d :: rest =>
        if d.isDigit then failNext .invalidNumber (d :: rest) else .ok (['0'], d :: rest)
    else if c.isDigit then .ok (digits (c :: text))
    else failNext .invalidNumber (c :: text)

/-- Take the digits of the fraction, after its point. -/
def fractionDigits : Scanner (List Char) := fun text =>
  match digits text with
  | ([], []) => failNext .endInValue []
  | ([], rest) => failNext .invalidNumber rest
  | found => .ok found

/-! ## Scaling -/

/-- The greatest exponent of a power of ten that is a finite double. -/
def greatestPower : Nat :=
  308

/-- The double nearest to a power of ten. -/
def powerOfTen (exponent : Nat) : Double :=
  Double.ofNat (Nat.pow 10 exponent)

/-- Divide a double by a power of ten, in several steps where the power is no finite double. -/
def divideByPower (x : Double) (exponent : Nat) : Double :=
  if exponent ≤ greatestPower then x.div (powerOfTen exponent)
  else if x.isZero then x
  else divideByPower (x.div (powerOfTen greatestPower)) (exponent - greatestPower)
termination_by exponent
decreasing_by
  simp only [greatestPower] at *
  omega

/-- A word times a power of ten. -/
def scale (word : Nat) (exponent : Int) : Double :=
  let x := Double.ofNat word
  if exponent < 0 then divideByPower x (-exponent).toNat
  else if exponent ≤ greatestPower then x.mul (powerOfTen exponent.toNat)
  else if x.isZero then x
  else Double.infinity false

/-- The number with a given sign, word and power of ten, if it is finite. -/
def scaled? (negative : Bool) (word : Nat) (exponent : Int) : Option Number :=
  let x := scale word exponent
  let signed := if negative then x.neg else x
  if finite : signed.isFinite = true then some (.double signed finite) else none

/-- The same as a scanner's result, with what is left of the text. -/
def scaled (negative : Bool) (word : Nat) (exponent : Int) (rest : List Char) :
    Except Failure (Number × List Char) :=
  match scaled? negative word exponent with
  | some number => .ok (number, rest)
  | none => failHere .numberOutOfRange rest

/-! ## Exponents -/

/-- Take the sign of an exponent; it is positive where none is written. -/
def exponentSign : List Char → Bool × List Char
  | '+' :: text => (false, text)
  | '-' :: text => (true, text)
  | text => (false, text)

/-- The number of digits at which an exponent passes the limit, if it does. -/
def passesLimit? (exponent : Nat) : List Char → Option Nat
  | [] => none
  | digit :: rest =>
    let longer := exponent * 10 + digitValue digit
    if exponentLimit < longer then some 1 else (passesLimit? longer rest).map (· + 1)

/-- Take an exponent after its mark and scale the number by it.  An exponent beyond the limit makes
a zero of a number that is zero or that it divides; any other number is out of range at the digit
that passes the limit. -/
def exponent (negative : Bool) (word : Nat) (shift : Int) : Scanner Number := fun text =>
  let (divides, text) := exponentSign text
  match digits text with
  | ([], []) => failHere .endInValue []
  | ([], rest) => failNext .invalidNumber rest
  | (found, rest) =>
    match passesLimit? 0 found with
    | some count =>
      if word = 0 ∨ divides then scaled negative 0 0 rest
      else failHere .numberOutOfRange (found.drop count ++ rest)
    | none =>
      let written : Int := (gather 0 found).1
      scaled negative word (if divides then shift - written else shift + written) rest

/-! ## Numbers -/

/-- The integer of a given sign and magnitude, or a double where there is no such integer of at
most 64 bits or where the integer is a negative zero. -/
def whole? (negative : Bool) (word : Nat) : Option Number :=
  if negative then
    if inRange : 0 < word ∧ word ≤ 0x8000000000000000 then some (.integer (-word) (by omega))
    else scaled? true word 0
  else if inRange : word < wordLimit then
    some (.integer word (by simp only [wordLimit] at inRange; omega))
  else none

/-- Take a number after its sign. -/
def number (negative : Bool) : Scanner Number := fun text => do
  let (wholePart, rest) ← wholeDigits text
  let (word, count) := gather 0 wholePart
  let dropped := wholePart.length - count
  match rest with
  | '.' :: text =>
    let (decimals, rest) ← fractionDigits text
    let (word, count) := gather word decimals
    let shift : Int := dropped - count
    match rest with
    | 'e' :: text => exponent negative word shift text
    | 'E' :: text => exponent negative word shift text
    | _ => scaled negative word shift rest
  | 'e' :: text => exponent negative word dropped text
  | 'E' :: text => exponent negative word dropped text
  | _ =>
    match if dropped = 0 then whole? negative word else none with
    | some number => .ok (number, rest)
    | none => scaled negative word dropped rest

end Scan
end DuckTyping
