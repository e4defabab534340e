import TemplateQuery.Number.Binary64

/-!
# Shortest decimals

The decimal with the fewest digits that reads back as a given binary64 value. The search is exact:
the value and the interval of fractions that round to it are integers over one common
denominator, and for 1, 2, … 17 digits the two neighbours of the value on the decimal grid are
tested against that interval. The first grid with a hit wins, of two hits the nearer one.
-/
namespace TemplateQuery

/-- The number `digits * 10 ^ exponent`. -/
structure Decimal where
  digits : Nat
  exponent : Int
deriving DecidableEq, Inhabited

/-- The count of decimal digits of a natural number, where zero has one. -/
def Decimal.digitCount (n : Nat) : Nat := (Nat.toDigits 10 n).length

/-- The same number with the zeros at the end of its digits moved to the exponent. -/
def Decimal.trim : Nat → Decimal → Decimal
  | 0, d => d
  | n + 1, d => if d.digits % 10 = 0 then trim n ⟨d.digits / 10, d.exponent + 1⟩ else d

namespace Binary64

/--
The numbers `lower / den < upper / den` between which lie exactly the fractions that round to a
positive finite value `value / den`, with the ends included when `closed`.
-/
structure Rounding where
  lower : Nat
  value : Nat
  upper : Nat
  den : Nat
  closed : Bool

/-- Below a power of two the neighbours are half as far apart as above it. -/
def rounding (x : Binary64) : Rounding :=
  let s := x.significand
  let up := twoPow x.exponent.toNat
  let belowPower := s = twoPow 52 ∧ 2 * twoPow 52 ≤ x.magnitude
  { lower := (if belowPower then 4 * s - 1 else 4 * s - 2) * up
    value := 4 * s * up
    upper := (4 * s + 2) * up
    den := 4 * twoPow (-x.exponent).toNat
    closed := s % 2 = 0 }

/-- Whether the decimal fraction `num / scale` rounds to the value. -/
def Rounding.admits (r : Rounding) (num scale : Nat) : Bool :=
  let n := num * r.den
  if r.closed then r.lower * scale ≤ n && n ≤ r.upper * scale
  else r.lower * scale < n && n < r.upper * scale

/-- The exponent of the leading decimal digit of a positive fraction. -/
def leadingExponent (num den : Nat) : Int :=
  if den ≤ num then (Decimal.digitCount (num / den) : Int) - 1
  else -(Decimal.digitCount ((den + num - 1) / num - 1) : Int)

/-- The best decimal on the grid of multiples of `10 ^ exponent`, if a neighbour rounds to the value. -/
def Rounding.onGrid (r : Rounding) (exponent : Int) : Option Decimal :=
  let up := tenPow exponent.toNat
  let scale := tenPow (-exponent).toNat
  let num := r.value * scale
  let den := r.den * up
  let below := num / den
  let remainder := num % den
  let lowHit := r.admits (below * up) scale
  let highHit := r.admits ((below + 1) * up) scale
  let preferLow := 2 * remainder < den || (2 * remainder = den && below % 2 = 0)
  if lowHit && (preferLow || !highHit) then some ⟨below, exponent⟩
  else if highHit then some ⟨below + 1, exponent⟩
  else none

def Rounding.search (r : Rounding) (leading : Int) : Nat → Nat → Decimal
  | 0, _ => ⟨r.value / r.den, 0⟩
  | more + 1, count =>
    match r.onGrid (leading + 1 - count) with
    | some d => d
    | none => r.search leading more (count + 1)

/-- The shortest decimal that reads back as the absolute value of a finite `x`. -/
def shortest (x : Binary64) : Decimal :=
  if x.magnitude = 0 then ⟨0, 0⟩
  else
    let r := x.rounding
    (r.search (leadingExponent r.value r.den) 17 1).trim 20

end Binary64

end TemplateQuery
