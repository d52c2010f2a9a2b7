import SchemaTables.Decimal.Binary64

/-!
# Reading decimals

A decimal text is taken to the nearest double-precision number in one rounding, a tie going to the
even significand.  Beyond the greatest finite number it is infinite.
-/

namespace SchemaTables.Decimal

/-- A decimal: a sign, the digits read as one number, and the power of ten that multiplies it. -/
structure Scientific where
  negative : Bool
  digits : Nat
  exponent : Int
  deriving DecidableEq, Inhabited

namespace Scientific

/-- The digits at the start of a text, and what follows them. -/
def spanDigits (text : List Char) : List Char × List Char := text.span Char.isDigit

/-- Digits read as a number. -/
def natOfDigits (digits : List Char) : Nat :=
  digits.foldl (fun n c => n * 10 + (c.toNat - '0'.toNat)) 0

/-- The exponent at the start of a text, which is then at its end. -/
def exponent? : List Char → Option Int
  | [] => some 0
  | c :: rest =>
    if c = 'e' ∨ c = 'E' then
      let (negative, digits) :=
        match rest with
        | '-' :: digits => (true, digits)
        | '+' :: digits => (false, digits)
        | digits => (false, digits)
      if digits.isEmpty || !digits.all Char.isDigit then none
      else if negative then some (-(natOfDigits digits)) else some (natOfDigits digits)
    else none

/-- A decimal without its sign. -/
def ofUnsigned? (negative : Bool) (text : List Char) : Option Scientific :=
  let (whole, rest) := spanDigits text
  let (fraction, rest) :=
    match rest with
    | '.' :: rest => spanDigits rest
    | rest => ([], rest)
  if whole.isEmpty && fraction.isEmpty then none
  else
    (exponent? rest).map fun exponent =>
      ⟨negative, natOfDigits (whole ++ fraction), exponent - fraction.length⟩

def ofText? (text : String) : Option Scientific :=
  match text.toList with
  | '-' :: rest => ofUnsigned? true rest
  | '+' :: rest => ofUnsigned? false rest
  | rest => ofUnsigned? false rest

/-- Beyond this power of ten every nonzero number is infinite, below its negative zero. -/
def farPower : Nat := 400

/-- The number of decimal digits. -/
def length (decimal : Scientific) : Nat := (Nat.toDigits 10 decimal.digits).length

def toFloat (decimal : Scientific) : Float :=
  let point := decimal.exponent + decimal.length
  let magnitude :=
    if decimal.digits = 0 ∨ point < -(farPower : Int) then Float.ofBits 0
    else if (farPower : Int) < point then 1.0 / 0.0
    else
      let rounded? :=
        if 0 ≤ decimal.exponent then
          Binary64.ofRatio? false (decimal.digits * Nat.pow 10 decimal.exponent.toNat) 1
        else Binary64.ofRatio? false decimal.digits (Nat.pow 10 (-decimal.exponent).toNat)
      match rounded? with
      | some value => value.toFloat
      | none => 1.0 / 0.0
  if decimal.negative then -magnitude else magnitude

end Scientific

end SchemaTables.Decimal
