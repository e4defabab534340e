import TemplateQuery.Template.Node

/-!
# Rendering

Rendering moves through the nodes in order, keeping the context and the output so far, and stops at the first error.
What is kept survives an error, and every loop closes the scope it opened however its body ends.
-/
namespace TemplateQuery.Template

/-- How far a render has come. -/
structure Progress where
  context : RenderContext
  output : String

/-- The state after a step, and the error that ended it, if one did. -/
abbrev Outcome := Progress × Except Error Unit

namespace Progress

def write (p : Progress) (s : String) : Progress := { p with output := p.output ++ s }

def succeed (p : Progress) : Outcome := (p, .ok ())

def fail (p : Progress) (e : Error) : Outcome := (p, .error e)

def openScope (p : Progress) : Progress := { p with context := p.context.push }

def closeScope (p : Progress) : Progress := { p with context := p.context.pop }

def bindItem (p : Progress) (name : String) (item : Json) (index length : Nat) : Progress :=
  { p with context := Template.bindItem name item index length p.context }

end Progress

/-- Goes on from a step unless it failed. -/
def Outcome.andThen (outcome : Outcome) (next : Progress → Outcome) : Outcome :=
  match outcome with
  | (p, .ok ()) => next p
  | (p, .error e) => (p, .error e)

def Outcome.closeScope (outcome : Outcome) : Outcome := (outcome.1.closeScope, outcome.2)

/-- Writes the value of a pipeline. -/
def renderOutput (env : Environment) (pipeline : Pipeline) (p : Progress) : Outcome :=
  match pipeline.evaluate env p.context with
  | .error e => p.fail e
  | .ok value =>
    match env.mode.output value with
    | .error e => p.fail e
    | .ok s => (p.write s).succeed

/-- The iterations of a loop over `length` items, from the one at an index on. -/
def renderEach (name : String) (length : Nat) (body : Progress → Outcome) :
    (index : Nat) → List Json → Progress → Outcome
  | _, [], p => p.succeed
  | index, item :: rest, p =>
    (body (p.bindItem name item index length)).andThen (renderEach name length body (index + 1) rest)

/-- One scope for all iterations, or the alternative if there are no items. -/
def renderItems (name : String) (items : List Json) (body alternative : Progress → Outcome) (p : Progress) : Outcome :=
  match items with
  | [] => alternative p
  | items => (renderEach name items.length body 0 items p.openScope).closeScope

mutual

def renderNode (env : Environment) : Node → Progress → Outcome
  | .text content, p => (p.write content).succeed
  | .output pipeline, p => renderOutput env pipeline p
  | .loop header body alternative, p =>
    match header.items env.mode p.context with
    | .error e => p.fail e
    | .ok items =>
      renderItems header.variableName items (renderNodes env body) (renderAlternative env alternative) p
termination_by structural n => n

def renderAlternative (env : Environment) : Option (List Node) → Progress → Outcome
  | none, p => p.succeed
  | some nodes, p => renderNodes env nodes p
termination_by structural o => o

def renderNodes (env : Environment) : List Node → Progress → Outcome
  | [], p => p.succeed
  | node :: rest, p => (renderNode env node p).andThen (renderNodes env rest)
termination_by structural ns => ns

end

end TemplateQuery.Template
