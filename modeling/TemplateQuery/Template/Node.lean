import TemplateQuery.Template.Loop
import TemplateQuery.Template.Markup

/-!
# Nodes

A template is read into a tree: text, output statements and loops with a body and perhaps an alternative. A block
ends at its end tag, at an `else` that belongs to it, or where the markup runs out, and every header is read after
the block that it opens.
-/
namespace TemplateQuery.Template

inductive Node where
  | text (content : String)
  | output (pipeline : Pipeline)
  /-- The alternative is what follows an `else`, if there is one. -/
  | loop (header : LoopHeader) (body : List Node) (alternative : Option (List Node))

/-- A malformed expression or header with its line. -/
def atLine {α : Type} (line : Nat) : Checked α → Except Error α
  | .ok x => .ok x
  | .error cause => .error (.malformed cause (some line))

/-- The name and line of the tag that a block stopped at. -/
structure Stop where
  name : String
  line : Nat

/-- Nodes, the tag that stopped them, if any, and the markup after that tag. -/
abbrev Block := List Node × Option Stop × List Markup

def Block.cons (node : Node) (block : Block) : Block := (node :: block.1, block.2)

def endName (name : String) : String := "end" ++ name

def missingEnd (name : String) (line : Nat) : Error := .unbalanced (.missingEnd name) line

/-- The nodes before and after the `else` of a tag, and the markup after its end. -/
abbrev Branches := List Node × Option (List Node) × List Markup

def readBranches (block : String → List Markup → Except Error Block) (name : String) (line : Nat)
    (ms : List Markup) : Except Error Branches := do
  let (body, stop, rest) ← block (endName name) ms
  match stop with
  | none => throw (missingEnd name line)
  | some stop =>
    if stop.name = "else" then
      let (alternative, stop, rest) ← block (endName name) rest
      match stop with
      | none => throw (missingEnd name line)
      | some stop =>
        if stop.name = "else" then throw (.unbalanced .secondElse stop.line)
        else return (body, some alternative, rest)
    else return (body, none, rest)

/-- Nodes up to the end tag or an `else`; every step takes a piece of markup at least. -/
def readBlock (env : Environment) : (fuel : Nat) → (endTag : Option String) → List Markup → Except Error Block
  | 0, _, ms => .ok ([], none, ms)
  | _, _, [] => .ok ([], none, [])
  | fuel + 1, endTag, .text content :: rest => do
    let block ← readBlock env fuel endTag rest
    return block.cons (.text content)
  | fuel + 1, endTag, .output source line :: rest => do
    let pipeline ← atLine line (Pipeline.ofText source)
    let block ← readBlock env fuel endTag rest
    return block.cons (.output pipeline)
  | fuel + 1, endTag, .tag name header line :: rest =>
    if name = "else" ∨ some name = endTag then .ok ([], some ⟨name, line⟩, rest)
    else
      match Dict.get? env.tags name with
      | none => .error (.unbalanced (.unknownTag name) line)
      | some tag => do
        let (body, alternative, rest) ← readBranches (fun e => readBlock env fuel (some e)) name line rest
        let header ← atLine line (LoopHeader.ofText tag header)
        let block ← readBlock env fuel endTag rest
        return block.cons (.loop header body alternative)

/-- The nodes of a whole template. -/
def nodesOfMarkup (env : Environment) (ms : List Markup) : Except Error (List Node) := do
  let (nodes, stop, _) ← readBlock env (ms.length + 1) none ms
  match stop with
  | none => return nodes
  | some stop => throw (.unbalanced (.strayTag stop.name) stop.line)

end TemplateQuery.Template
