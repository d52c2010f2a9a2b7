import SchemaTables.Decimal.Binary64

/-!
# The fewest digits that read back

The decimal text of a double-precision number has as few significant digits as still single it
out among all double-precision numbers, and of the decimals of that length it is the one nearest
to the number.  The search runs over decimal grids of one, two, up to seventeen digits and
compares exactly, in natural numbers.

How the digits are laid out (where positional notation ends, how an exponent is written) is a
`Layout`.
-/

namespace SchemaTables.Decimal

/-- A nonzero magnitude `0.d₁d₂d₃… * 10 ^ point`, by its digits read as one number. -/
structure Digits where
  /-- The significant digits, without trailing zeros. -/
  digits : List Char
  /-- How many digits stand before the decimal point. -/
  point : Int
  deriving DecidableEq, Inhabited

/-- A magnitude and the two ends of the interval of reals that round to it, all with one
denominator; the ends belong to the interval when the significand is even. -/
structure Neighbourhood where
  value : Nat
  low : Nat
  high : Nat
  den : Nat
  closed : Bool

namespace Neighbourhood

/-- The neighbourhood of a nonzero number.  At a power of two the numbers below lie twice as
close, except among the subnormal ones. -/
def of (x : Binary64) : Neighbourhood :=
  let m := x.significand
  let narrow := m = Binary64.hiddenBit ∧ 1 < x.scale
  let value := 4 * m
  let low := if narrow then value - 1 else value - 2
  let high := value + 2
  let closed := m % 2 == 0
  if 1077 ≤ x.scale then
    let unit := 1 <<< (x.scale - 1077)
    ⟨value * unit, low * unit, high * unit, 1, closed⟩
  else
    ⟨value, low, high, 1 <<< (1077 - x.scale), closed⟩

/-- Does the decimal `n * 10 ^ exponent` read back as the number? -/
def holds (s : Neighbourhood) (n : Nat) (exponent : Int) : Bool :=
  let num := if 0 ≤ exponent then n * Nat.pow 10 exponent.toNat * s.den else n * s.den
  let scaleBy := if 0 ≤ exponent then 1 else Nat.pow 10 (-exponent).toNat
  if s.closed then s.low * scaleBy ≤ num && num ≤ s.high * scaleBy
  else s.low * scaleBy < num && num < s.high * scaleBy

/-- The ratio of the value to `10 ^ exponent`, as a numerator and a denominator. -/
def ratioTo (s : Neighbourhood) (exponent : Int) : Nat × Nat :=
  if 0 ≤ exponent then (s.value, s.den * Nat.pow 10 exponent.toNat)
  else (s.value * Nat.pow 10 (-exponent).toNat, s.den)

/-- The decimal exponent of the first digit. -/
def leading (s : Neighbourhood) : Int :=
  let estimate : Int := ((s.value / s.den).log2 : Int) * 30103 / 100000
  let start : Int := if s.value < s.den then -(((s.den / s.value).log2 : Int) * 30103 / 100000) - 2
    else estimate - 1
  let reaches (exponent : Int) : Bool := let (n, d) := s.ratioTo exponent; d ≤ n
  if reaches (start + 3) then start + 3
  else if reaches (start + 2) then start + 2
  else if reaches (start + 1) then start + 1
  else start

/-- The decimal of the grid `10 ^ exponent` that reads back and is nearest, if there is one. -/
def onGrid? (s : Neighbourhood) (exponent : Int) : Option Nat :=
  let (n, d) := s.ratioTo exponent
  let floor := n / d
  match s.holds floor exponent, s.holds (floor + 1) exponent with
  | true, true =>
    let twice := 2 * (n % d)
    if twice < d then some floor
    else if d < twice then some (floor + 1)
    else if floor % 2 = 0 then some floor else some (floor + 1)
  | true, false => some floor
  | false, true => some (floor + 1)
  | false, false => none

/-- Tries ever finer grids; `count` bounds how many. -/
def search (s : Neighbourhood) : Nat → Int → Nat × Int
  | 0, exponent => ((s.ratioTo exponent).1 / (s.ratioTo exponent).2, exponent)
  | count + 1, exponent =>
    match s.onGrid? exponent with
    | some n => (n, exponent)
    | none => search s count (exponent - 1)

end Neighbourhood

def digitsOf (n : Nat) : List Char := Nat.toDigits 10 n

def trimZeros (digits : List Char) : List Char := (digits.reverse.dropWhile (· == '0')).reverse

/-- The fewest digits that read back as a nonzero number. -/
def shortest (x : Binary64) : Digits :=
  let s := Neighbourhood.of x
  let (n, exponent) := s.search 17 s.leading
  let digits := digitsOf n
  ⟨trimZeros digits, exponent + digits.length⟩

/-- How digits are laid out as text. -/
structure Layout where
  /-- The least exponent of the first digit that is written positionally. -/
  lowest : Int
  /-- The greatest exponent of the first digit that is written positionally. -/
  highest : Int
  /-- Is a positive exponent written with a sign? -/
  plusSign : Bool

def zeros (count : Nat) : List Char := List.replicate count '0'

/-- Positional notation with at least one digit on both sides of the point. -/
def positional (d : Digits) : List Char :=
  if d.point ≤ 0 then ['0', '.'] ++ zeros (-d.point).toNat ++ d.digits
  else
    let point := d.point.toNat
    if d.digits.length ≤ point then d.digits ++ zeros (point - d.digits.length) ++ ['.', '0']
    else d.digits.take point ++ '.' :: d.digits.drop point

/-- Scientific notation: one digit, the other digits if any after a point, the exponent. -/
def scientific (plusSign : Bool) (d : Digits) : List Char :=
  let exponent := d.point - 1
  let mantissa := match d.digits with
    | [] => ['0']
    | [c] => [c]
    | c :: rest => c :: '.' :: rest
  let sign := if exponent < 0 then ['-'] else if plusSign then ['+'] else []
  mantissa ++ 'e' :: sign ++ digitsOf exponent.natAbs

def Layout.text (layout : Layout) (x : Binary64) : String :=
  let sign := if x.isNegative then ['-'] else []
  let body :=
    if x.isZero then ['0', '.', '0']
    else
      let d := shortest x
      if layout.lowest ≤ d.point - 1 ∧ d.point - 1 ≤ layout.highest then positional d
      else scientific layout.plusSign d
  String.ofList (sign ++ body)

end SchemaTables.Decimal
