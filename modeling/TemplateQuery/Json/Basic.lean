import TemplateQuery.Dict
import TemplateQuery.Number.Binary64

/-!
# JSON values

Whole numbers and floating-point numbers are kept apart, since they are written differently, and
objects keep the order of their members. Comparison, which does not tell `1` from `1.0`, is in
`Json.Compare`.
-/
namespace TemplateQuery

inductive Number where
  | int (value : Int)
  | real (value : Binary64)
deriving DecidableEq, Inhabited

/-- The number as a comparison sees it. -/
def Number.toBinary64 : Number → Binary64
  | .int i => Binary64.ofInt i
  | .real x => x

inductive Json where
  | null
  | bool (value : Bool)
  | number (value : Number)
  | string (value : String)
  | array (items : List Json)
  | object (members : List (String × Json))
deriving Inhabited

namespace Json

def ofNat (n : Nat) : Json := .number (.int n)

def ofInt (i : Int) : Json := .number (.int i)

/-- A floating-point number, where the infinities have no JSON form and become null. -/
def ofBinary64 (x : Binary64) : Json := if x.isFinite then .number (.real x) else .null

/-- The member of that name; only objects have members. -/
def get? : Json → String → Option Json
  | .object members, key => Dict.get? members key
  | _, _ => none

/-- The elements of an array or the member values of an object, in order. -/
def children : Json → List Json
  | .array items => items
  | .object members => Dict.values members
  | _ => []

end Json

end TemplateQuery
