/-!
# Slices of an array

A slice names the positions from a first bound towards a second one, a fixed step apart. Negative
bounds count from the end, and both bounds are brought into the array before the first step.
-/
namespace TemplateQuery.Query

/-- A bound counted from the start of an array of the given length. -/
def fromStart (length : Nat) (i : Int) : Int := if i < 0 then length + i else i

def clamp (low high i : Int) : Int := max low (min i high)

/-- The integers `first`, `first + step`, … below `limit`, for a positive step. -/
def stepsBelow (first limit step : Int) : List Int :=
  (List.range ((limit - first + step - 1) / step).toNat).map fun (k : Nat) => first + (k : Int) * step

/-- The positions that a slice selects in an array of the given length, in order. -/
def slicePositions (start stop step : Option Int) (length : Nat) : List Int :=
  let n : Int := length
  let gap := step.getD 1
  if 0 < gap then
    let first := clamp 0 n ((start.map (fromStart length)).getD 0)
    let limit := clamp 0 n ((stop.map (fromStart length)).getD n)
    stepsBelow first limit gap
  else if gap < 0 then
    let first := clamp (-1) (n - 1) ((start.map (fromStart length)).getD (n - 1))
    let limit := clamp (-1) (n - 1) ((stop.map (fromStart length)).getD (-1))
    (stepsBelow (-first) (-limit) (-gap)).map (-·)
  else []

/-- The element at a position, if it lies in the list. -/
def elementAt? {α : Type} (items : List α) (position : Int) : Option α :=
  if position < 0 then none else items[position.toNat]?

def slice {α : Type} (start stop step : Option Int) (items : List α) : List α :=
  (slicePositions start stop step items.length).filterMap (elementAt? items)

/-- The element at an index, where a negative one counts from the end, if the index is in range. -/
def atIndex? {α : Type} (items : List α) (index : Int) : Option α :=
  let position := fromStart items.length index
  if 0 ≤ position ∧ position < items.length then items[position.toNat]? else none

end TemplateQuery.Query
