/-!
# Binary64 numbers

A floating-point value is its sign together with the 63 bits below the sign, read as a natural
number. On finite values that number grows with the absolute value, so comparison is comparison
of integers, and every operation that rounds goes through one function on exact fractions. There
is no NaN here: nothing in the library produces one.
-/
namespace TemplateQuery

/-! ## Powers and the range of whole numbers -/

def twoPow (e : Nat) : Nat := Nat.pow 2 e

def tenPow (e : Nat) : Nat := Nat.pow 10 e

/-- Whether a whole number is at least `-2 ^ 63` and below `2 ^ 63`. -/
def fitsInt64 (i : Int) : Bool := -(twoPow 63 : Int) ≤ i && i < (twoPow 63 : Int)

/-! ## Values -/

/-- A binary64 value other than NaN. -/
structure Binary64 where
  negative : Bool
  magnitude : Nat
deriving DecidableEq, Inhabited

namespace Binary64

/-- The magnitude of the infinities: every larger fraction rounds to it. -/
def infinite : Nat := 2047 * twoPow 52

def isFinite (x : Binary64) : Bool := x.magnitude < infinite

def isZero (x : Binary64) : Bool := x.magnitude = 0

def zero : Binary64 := ⟨false, 0⟩

def neg (x : Binary64) : Binary64 := ⟨!x.negative, x.magnitude⟩

/-- The order key: both zeros have the key 0. -/
def rank (x : Binary64) : Int := if x.negative then -(x.magnitude : Int) else x.magnitude

/-- Numeric equality, which does not tell the two zeros apart. -/
def equal (x y : Binary64) : Bool := x.rank = y.rank

def less (x y : Binary64) : Bool := x.rank < y.rank

/-- The integer factor of a finite value `significand * 2 ^ exponent`. -/
def significand (x : Binary64) : Nat :=
  if x.magnitude / twoPow 52 = 0 then x.magnitude else twoPow 52 + x.magnitude % twoPow 52

def exponent (x : Binary64) : Int := (max (x.magnitude / twoPow 52) 1 : Nat) - 1075

/-- A quotient rounded to the nearest natural number, a half to the even neighbour. -/
def roundHalfEven (num den : Nat) : Nat :=
  let q := num / den
  let twice := 2 * (num % den)
  if twice < den then q else if den < twice then q + 1 else q + q % 2

/--
The exponent of the unit in the last place of `num / den`, for positive `num` and `den`: with it
the fraction has 53 binary digits before the point, or fewer below the normal range.
-/
def unitExponent (num den : Nat) : Int :=
  let e : Int := (num.log2 : Int) - den.log2
  let reached := den * twoPow e.toNat ≤ num * twoPow (-e).toNat
  max (if reached then e - 52 else e - 53) (-1074)

/-- The magnitude nearest to `num / den`, a half to the even one. -/
def roundFraction (num den : Nat) : Nat :=
  if num = 0 then 0
  else
    let u := unitExponent num den
    let r := roundHalfEven (num * twoPow (-u).toNat) (den * twoPow u.toNat)
    min ((u + 1074).toNat * twoPow 52 + r) infinite

def ofNat (n : Nat) : Binary64 := ⟨false, roundFraction n 1⟩

def ofInt (i : Int) : Binary64 := ⟨i < 0, roundFraction i.natAbs 1⟩

/--
The value nearest to `digits * 10 ^ exponent`. Exponents far outside the range are answered
without computing the power: beyond `10 ^ 310` all is infinite, below `10 ^ (-330)` all is zero.
-/
def ofDecimal (negative : Bool) (digits : Nat) (exponent : Int) : Binary64 :=
  if digits = 0 then ⟨negative, 0⟩
  else if 310 < exponent then ⟨negative, infinite⟩
  else if exponent + (digits.log2 / 3 + 1 : Nat) < -330 then ⟨negative, 0⟩
  else ⟨negative, roundFraction (digits * tenPow exponent.toNat) (tenPow (-exponent).toNat)⟩

def mul (x y : Binary64) : Binary64 :=
  let e := x.exponent + y.exponent
  ⟨x.negative != y.negative,
    roundFraction (x.significand * y.significand * twoPow e.toNat) (twoPow (-e).toNat)⟩

/-- The quotient of finite values, for a divisor other than zero. -/
def div (x y : Binary64) : Binary64 :=
  let e := x.exponent - y.exponent
  ⟨x.negative != y.negative,
    roundFraction (x.significand * twoPow e.toNat) (y.significand * twoPow (-e).toNat)⟩

/-- The integer part, where a negative value counts as zero. -/
def floorNat (x : Binary64) : Nat :=
  if x.negative then 0 else x.significand * twoPow x.exponent.toNat / twoPow (-x.exponent).toNat

end Binary64

end TemplateQuery
