import SchemaTables.Decimal.Shortest

/-!
# Numbers in documents

A number is an integer or a double-precision number, and the two stay apart: `1` and `1.0` are
different numbers.  A literal without a fraction and an exponent is an integer when it fits an
unsigned word of 64 bits or, negative, a signed one; minus zero is not an integer.

Other literals are taken to double precision in two roundings: up to nineteen or twenty leading
digits are read as one word, and the word is multiplied or divided by a power of ten.
-/

namespace SchemaTables

open Decimal

/-- An integer or a finite double-precision number. -/
inductive Number
  /-- Between `-2 ^ 63` and `2 ^ 64 - 1`. -/
  | int (value : Int)
  | float (value : Binary64)
  deriving DecidableEq, Inhabited

namespace Number

/-- Positional notation from `0.00001` to below `10 ^ 16`, elsewhere scientific notation with a
signed exponent. -/
def layout : Layout := ⟨-5, 15, true⟩

def text : Number → String
  | .int value => toString value
  | .float value => layout.text value

/-- The value as a word, where it is a natural number. -/
def natural? : Number → Option Nat
  | .int value => if 0 ≤ value then some value.toNat else none
  | .float _ => none

def isPositive : Number → Bool
  | .int value => 0 < value
  | .float value => value.isPositive

/-- The greatest unsigned word. -/
def maxWord : Nat := 0xFFFFFFFFFFFFFFFF

/-- A digit appended to a word, where the result is a word. -/
def pushDigit? (word digit : Nat) : Option Nat :=
  if word * 10 + digit ≤ maxWord then some (word * 10 + digit) else none

/-- An integer literal whose digits fit a word. -/
def ofWord (negative : Bool) (word : Nat) : Number :=
  if negative then
    if 0 < word ∧ word ≤ 0x8000000000000000 then .int (-(word : Int))
    else .float (Binary64.ofNat word).neg
  else .int word

/-- Divides by ten to the 308th as long as the exponent is below minus 308, and then by the power
that is left.  The result is zero once the quotient is. -/
def divideByTens : Nat → Binary64 → Nat → Binary64
  | 0, value, _ => value
  | fuel + 1, value, exponent =>
    if value.isZero then value
    else if exponent ≤ 308 then
      (value.divMagnitude? (Binary64.powerOfTen exponent)).getD value
    else
      let quotient := (value.divMagnitude? (Binary64.powerOfTen 308)).getD value
      divideByTens fuel quotient (exponent - 308)

/-- A word times a power of ten, unless it overflows. -/
def scaleWord? (negative : Bool) (word : Nat) (exponent : Int) : Option Binary64 :=
  let start := Binary64.ofNat word
  let magnitude? :=
    if 0 ≤ exponent then
      if exponent ≤ 308 then start.mulMagnitude? (Binary64.powerOfTen exponent.toNat)
      else if start.isZero then some start else none
    else some (divideByTens 8 start (-exponent).toNat)
  magnitude?.map fun magnitude => if negative then magnitude.neg else magnitude

end Number

end SchemaTables
