import TemplateQuery.Json.Basic

/-!
# Query paths

A query is a path from the document: a list of segments, each of which takes a node to the nodes it
selects. A filter segment holds an expression, and expressions hold paths of their own, so both
types are defined together. A path that uses only member names and indices is singular: it selects
at most one node.
-/
namespace TemplateQuery.Query

/-- Where a path starts. -/
inductive Root where
  | document
  | current
  | extra
deriving DecidableEq, Inhabited

inductive Comparison where
  | equal
  | notEqual
  | less
  | lessEqual
  | greater
  | greaterEqual
  | isIn
  | contains
deriving DecidableEq, Inhabited

mutual

inductive Segment where
  | child (name : String)
  | index (position : Int)
  | wildcard
  /-- The nodes that the selector takes from the node and from everything below it. -/
  | descend (selector : Segment)
  | slice (start stop step : Option Int)
  | union (selectors : List Segment)
  | filter (test : Expr)

inductive Expr where
  | literal (value : Json)
  | path (root : Root) (segments : List Segment)
  | call (name : String) (arguments : List Expr)
  | not (operand : Expr)
  | and (left right : Expr)
  | or (left right : Expr)
  | compare (left : Expr) (op : Comparison) (right : Expr)

end

instance : Inhabited Segment := ⟨.wildcard⟩

instance : Inhabited Expr := ⟨.literal .null⟩

def Segment.isSingular : Segment → Bool
  | .child _ | .index _ => true
  | _ => false

/-- Whether every segment selects at most one node. -/
def isSingular (segments : List Segment) : Bool := segments.all Segment.isSingular

end TemplateQuery.Query
