import TemplateQuery.Number.Binary64

/-!
# Stepwise reading of decimals

Numbers in documents are read in two rounding steps: as many digits as fit 64 bits are rounded to a
binary64 value, and that value is multiplied or divided by a rounded power of ten. The result can
differ from the nearest value in its last bit. `Binary64.ofDecimal` rounds once.
-/
namespace TemplateQuery

/-- The digits read so far: a 64-bit coefficient and the power of ten that goes with it. -/
structure Coefficient where
  value : Nat
  exponent : Int
  /-- Set once a digit did not fit: no later digit changes the coefficient. -/
  full : Bool

namespace Coefficient

def start : Coefficient := ⟨0, 0, false⟩

/-- The coefficient with one more digit, if that still fits 64 bits. -/
def grow? (c : Coefficient) (digit : Nat) : Option Nat :=
  if c.full || twoPow 64 ≤ c.value * 10 + digit then none else some (c.value * 10 + digit)

/-- A digit before the point: one that does not fit still counts a power of ten. -/
def whole (c : Coefficient) (digit : Nat) : Coefficient :=
  match c.grow? digit with
  | some v => { c with value := v }
  | none => { c with exponent := c.exponent + 1, full := true }

/-- A digit after the point: one that does not fit is dropped. -/
def fraction (c : Coefficient) (digit : Nat) : Coefficient :=
  match c.grow? digit with
  | some v => { c with value := v, exponent := c.exponent - 1 }
  | none => { c with full := true }

end Coefficient

namespace Binary64

def powerOfTen (n : Nat) : Binary64 := ofDecimal false 1 n

/--
`x * 10 ^ exponent` in steps of at most `10 ^ 308`, or `none` beyond the finite range. Two steps
down take every 64-bit coefficient to zero, so `steps` need not exceed three.
-/
def scale? (x : Binary64) (exponent : Int) : (steps : Nat) → Option Binary64
  | 0 => some zero
  | steps + 1 =>
    if 0 ≤ exponent then
      if exponent ≤ 308 then
        let y := x.mul (powerOfTen exponent.toNat)
        if y.isFinite then some y else none
      else if x.isZero then some x else none
    else if -308 ≤ exponent then some (x.div (powerOfTen (-exponent).toNat))
    else if x.isZero then some x
    else scale? (x.div (powerOfTen 308)) (exponent + 308) steps

/-- The value of a signed coefficient, or `none` beyond the finite range. -/
def ofCoefficient? (negative : Bool) (c : Coefficient) : Option Binary64 :=
  (scale? (ofNat c.value) c.exponent 4).map fun x => if negative then x.neg else x

end Binary64

end TemplateQuery
