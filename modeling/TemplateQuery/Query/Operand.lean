import TemplateQuery.Json.Compare
import TemplateQuery.Query.Path

/-!
# Operands of filter expressions

A filter expression evaluates to nothing, to one value, to a list of nodes or to a truth value. The
operators of a comparison see at most one value in each.
-/
namespace TemplateQuery.Query

inductive Operand where
  | nothing
  | value (json : Json)
  | nodes (items : List Json)
  | logical (truth : Bool)
deriving Inhabited

namespace Operand

/-- The one value the operand holds, if it holds exactly one. -/
def value? : Operand → Option Json
  | .value v => some v
  | .nodes [v] => some v
  | _ => none

/-- Whether a filter test passes: null and false are the values that do not. -/
def isTruthy : Operand → Bool
  | .nothing => false
  | .logical b => b
  | .nodes items => !items.isEmpty
  | .value .null => false
  | .value (.bool b) => b
  | .value _ => true

/-- What a comparison sees: several nodes are compared as one array. -/
def comparable : Operand → Option Json
  | .nothing => none
  | .value v => some v
  | .logical b => some (.bool b)
  | .nodes [] => none
  | .nodes [v] => some v
  | .nodes items => some (.array items)

end Operand

/-- What a function call gives back. -/
inductive Answer where
  | nothing
  | value (json : Json)
  | logical (truth : Bool)
deriving Inhabited

def Answer.toOperand : Answer → Operand
  | .nothing => .nothing
  | .value v => .value v
  | .logical b => .logical b

namespace Comparison

/-- Nothing equals nothing, and no value. -/
def equalSides : Option Json → Option Json → Bool
  | none, none => true
  | some a, some b => a.equal b
  | _, _ => false

def lessSides : Option Json → Option Json → Bool
  | some a, some b => a.less b
  | _, _ => false

def containsSides : Option Json → Option Json → Bool
  | some container, some item => container.contains item
  | _, _ => false

def holds : Comparison → Option Json → Option Json → Bool
  | .equal, l, r => equalSides l r
  | .notEqual, l, r => !equalSides l r
  | .less, l, r => lessSides l r
  | .lessEqual, l, r => lessSides l r || equalSides l r
  | .greater, l, r => lessSides r l
  | .greaterEqual, l, r => lessSides r l || equalSides l r
  | .isIn, l, r => containsSides r l
  | .contains, l, r => containsSides l r

end Comparison

end TemplateQuery.Query
