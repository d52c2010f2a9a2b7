/-!
# Double-precision numbers in exact arithmetic

A finite double-precision number is a sign, a significand and a power of two.  `ofRatio` takes a
ratio of natural numbers to the nearest such number, a tie going to the even significand, and
answers `none` when the ratio lies beyond the greatest finite one.
-/

namespace SchemaTables.Decimal

/-- A finite double-precision number by its interchange bits. -/
structure Binary64 where
  /-- Sign bit, eleven exponent bits, fifty-two fraction bits. -/
  bits : UInt64
  deriving DecidableEq, Inhabited

namespace Binary64

def isNegative (x : Binary64) : Bool := x.bits >>> 63 == 1

/-- The biased exponent. -/
def exponentField (x : Binary64) : Nat := ((x.bits >>> 52) &&& 0x7FF).toNat

/-- The fraction bits. -/
def fractionField (x : Binary64) : Nat := (x.bits &&& 0xFFFFFFFFFFFFF).toNat

/-- The bit in front of the fraction bits, which is not stored: `2 ^ 52`. -/
def hiddenBit : Nat := 0x10000000000000

/-- The magnitude is `significand * 2 ^ (scale - 1075)`. -/
def significand (x : Binary64) : Nat :=
  if x.exponentField = 0 then x.fractionField else x.fractionField + hiddenBit

/-- The biased power of two that multiplies the significand; at least one. -/
def scale (x : Binary64) : Nat := max 1 x.exponentField

def isZero (x : Binary64) : Bool := x.significand == 0

def zero (negative : Bool) : Binary64 := ⟨if negative then 0x8000000000000000 else 0⟩

/-- The same magnitude with the other sign. -/
def neg (x : Binary64) : Binary64 := ⟨x.bits ^^^ 0x8000000000000000⟩

/-- The magnitude as a numerator and a denominator. -/
def ratio (x : Binary64) : Nat × Nat :=
  if 1075 ≤ x.scale then (x.significand <<< (x.scale - 1075), 1)
  else (x.significand, 1 <<< (1075 - x.scale))

/-- A quotient rounded to the nearest natural number, a tie to the even one. -/
def roundHalfEven (num den : Nat) : Nat :=
  let quotient := num / den
  let twice := 2 * (num % den)
  if twice < den then quotient
  else if den < twice then quotient + 1
  else if quotient % 2 = 0 then quotient else quotient + 1

/-- The ratio divided by `2 ^ (power - 1075)`, as a numerator and a denominator. -/
def rescale (num den power : Nat) : Nat × Nat :=
  if 1075 ≤ power then (num, den <<< (power - 1075)) else (num <<< (1075 - power), den)

/-- The least biased power of two, not below one, at which the ratio has fewer than fifty-four
significand bits before rounding. -/
def powerFor (num den : Nat) : Nat :=
  let estimate := num.log2 + 1075 - den.log2 - 52
  let start := max 1 (estimate - 1)
  let fits (power : Nat) : Bool := let (n, d) := rescale num den power; n < d * (2 * hiddenBit)
  if fits start then start else if fits (start + 1) then start + 1 else start + 2

/-- The number with a significand below `2 ^ 53` and a biased power of two, unless it overflows. -/
def assemble? (negative : Bool) (significand power : Nat) : Option Binary64 :=
  if 2046 < power then none
  else
    let magnitude :=
      if significand < hiddenBit then significand else power * hiddenBit + (significand - hiddenBit)
    some ⟨(if negative then 0x8000000000000000 else 0) ||| magnitude.toUInt64⟩

/-- The number nearest to `num / den`, a tie going to the even significand. -/
def ofRatio? (negative : Bool) (num den : Nat) : Option Binary64 :=
  if num = 0 then some (zero negative)
  else
    let power := powerFor num den
    let (n, d) := rescale num den power
    let m := roundHalfEven n d
    if m = 2 * hiddenBit then assemble? negative hiddenBit (power + 1)
    else assemble? negative m power

/-- The number nearest to a natural number below `2 ^ 1023`. -/
def ofNat (n : Nat) : Binary64 := (ofRatio? false n 1).getD (zero false)

/-- The double-precision number that stands for a power of ten, up to ten to the 308th. -/
def powerOfTen (exponent : Nat) : Binary64 := ofNat (Nat.pow 10 exponent)

/-- The rounded product of two magnitudes. -/
def mulMagnitude? (x y : Binary64) : Option Binary64 :=
  ofRatio? false (x.ratio.1 * y.ratio.1) (x.ratio.2 * y.ratio.2)

/-- The rounded quotient of two magnitudes; the divisor is not zero. -/
def divMagnitude? (x y : Binary64) : Option Binary64 :=
  ofRatio? false (x.ratio.1 * y.ratio.2) (x.ratio.2 * y.ratio.1)

def isPositive (x : Binary64) : Bool := !x.isNegative && !x.isZero

/-- The machine number with these bits. -/
def toFloat (x : Binary64) : Float := Float.ofBits x.bits

/-- The bits of a machine number, where it is finite. -/
def ofFloat? (x : Float) : Option Binary64 := if x.isFinite then some ⟨x.toBits⟩ else none

end Binary64

end SchemaTables.Decimal
