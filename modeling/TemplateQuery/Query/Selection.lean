import TemplateQuery.Query.Function
import TemplateQuery.Query.Grammar
import TemplateQuery.Query.Slice

/-!
# Selecting nodes

A path is followed level by level: each segment takes every node of one level, in order, to the nodes of
the next. Only a failing function call makes a selection fail, and the first failure in that order is the
one reported. A query is compiled once against a function table, which it keeps, and evaluated on any number
of documents. Its filters see a second value, the extra one, as `_`.
-/
namespace TemplateQuery.Query

/-- The results for all elements, one after the other. -/
def gather {α β ε : Type} (f : α → Except ε (List β)) : List α → Except ε (List β)
  | [] => .ok []
  | x :: xs => do
    let ys ← f x
    let zs ← gather f xs
    return ys ++ zs

/-- The elements that pass a test which may fail. -/
def keep {α ε : Type} (test : α → Except ε Bool) : List α → Except ε (List α)
  | [] => .ok []
  | x :: xs => do
    let passes ← test x
    let ys ← keep test xs
    return if passes then x :: ys else ys

mutual

/-- A node and all nodes below it, each before what is inside it. -/
def descendants : Json → List Json
  | .array items => .array items :: descendantsOfItems items
  | .object members => .object members :: descendantsOfMembers members
  | scalar => [scalar]
termination_by structural x => x

def descendantsOfItems : List Json → List Json
  | [] => []
  | x :: rest => descendants x ++ descendantsOfItems rest
termination_by structural x => x

def descendantsOfMembers : List (String × Json) → List Json
  | [] => []
  | (_, x) :: rest => descendants x ++ descendantsOfMembers rest
termination_by structural x => x

end

/-- The nodes of an array that a slice selects; nothing else has a slice. -/
def sliceNodes (start stop step : Option Int) : Json → List Json
  | .array items => slice start stop step items
  | _ => []

/-- The element of an array at an index. -/
def elementNodes (index : Int) : Json → List Json
  | .array items => (atIndex? items index).toList
  | _ => []

/-- What paths inside a query may start from, besides the current node. -/
structure Scope where
  document : Json
  extra : Json
  functions : FunctionTable

def Scope.start (scope : Scope) (root : Root) (current : Json) : Json :=
  match root with
  | .document => scope.document
  | .current => current
  | .extra => scope.extra

/-- A singular path without a match is nothing, and not an empty list of nodes. -/
def pathOperand (segments : List Segment) (nodes : List Json) : Operand :=
  if isSingular segments && nodes.isEmpty then .nothing else .nodes nodes

mutual

/-- The nodes that one segment selects from a node. -/
def select (scope : Scope) : Segment → Json → Except Error (List Json)
  | .child name, node => .ok (node.get? name).toList
  | .index position, node => .ok (elementNodes position node)
  | .wildcard, node => .ok node.children
  | .descend selector, node => gather (select scope selector) (descendants node)
  | .slice start stop step, node => .ok (sliceNodes start stop step node)
  | .union selectors, node => selectEach scope selectors node
  | .filter test, node =>
    keep (fun child => do
      let operand ← evaluate scope test child
      return operand.isTruthy) node.children
termination_by structural x => x

/-- The nodes of several selectors, one selector after the other. -/
def selectEach (scope : Scope) : List Segment → Json → Except Error (List Json)
  | [], _ => .ok []
  | selector :: rest, node => do
    let xs ← select scope selector node
    let ys ← selectEach scope rest node
    return xs ++ ys
termination_by structural x => x

/-- The nodes at the end of a path from the given ones. -/
def follow (scope : Scope) : List Segment → List Json → Except Error (List Json)
  | [], nodes => .ok nodes
  | segment :: rest, nodes => do
    let next ← gather (select scope segment) nodes
    follow scope rest next
termination_by structural x => x

/-- The operand of an expression at a node. The right side of `and` and `or` counts only if the left leaves it open. -/
def evaluate (scope : Scope) : Expr → Json → Except Error Operand
  | .literal value, _ => .ok (.value value)
  | .path root segments, current => do
    let nodes ← follow scope segments [scope.start root current]
    return pathOperand segments nodes
  | .call name arguments, current => do
    let operands ← evaluateAll scope arguments current
    let answer ← scope.functions.call name operands
    return answer.toOperand
  | .not operand, current => do
    let x ← evaluate scope operand current
    return .logical !x.isTruthy
  | .and left right, current => do
    let x ← evaluate scope left current
    if x.isTruthy then
      let y ← evaluate scope right current
      return .logical y.isTruthy
    else return .logical false
  | .or left right, current => do
    let x ← evaluate scope left current
    if x.isTruthy then return .logical true
    else
      let y ← evaluate scope right current
      return .logical y.isTruthy
  | .compare left op right, current => do
    let x ← evaluate scope left current
    let y ← evaluate scope right current
    return .logical (op.holds x.comparable y.comparable)
termination_by structural x => x

def evaluateAll (scope : Scope) : List Expr → Json → Except Error (List Operand)
  | [], _ => .ok []
  | e :: rest, current => do
    let x ← evaluate scope e current
    let xs ← evaluateAll scope rest current
    return x :: xs
termination_by structural x => x

end

/-! ## Compiled queries -/

structure Compiled where
  source : String
  segments : List Segment
  functions : FunctionTable

/-- Reads a query that calls only functions of the table. -/
def compile (functions : FunctionTable) (source : String) : Except Error Compiled :=
  let text := source.toList
  match readQuery functions.knows text with
  | .ok segments => .ok ⟨source, segments, functions⟩
  | .error fault => .error (fault.toError text.length)

/-- The nodes matched in a document, in match order. -/
def Compiled.run (query : Compiled) (document extra : Json) : Except Error (List Json) :=
  follow ⟨document, extra, query.functions⟩ query.segments [document]

end TemplateQuery.Query
