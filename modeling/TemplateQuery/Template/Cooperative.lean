import TemplateQuery.Template.Render

/-!
# Cooperative rendering

The same render in pieces: before each iteration of a loop it pauses and hands control back, and whoever runs it
decides when it goes on. A task is what is left to do after a pause.
-/
namespace TemplateQuery.Template

/-- A computation that may pause any number of times before it ends. -/
inductive Task (α : Type) where
  | done (result : α)
  | paused (resume : Unit → Task α)

namespace Task

variable {α β : Type}

/-- Runs to the next pause or to the end. -/
def poll : Task α → Task α
  | .done x => .done x
  | .paused resume => resume ()

/-- Goes on with a second computation after the first one has ended. -/
def andThen (next : α → Task β) : Task α → Task β
  | .done x => next x
  | .paused resume => .paused fun u => andThen next (resume u)

/-- Resumes at every pause, to the end. -/
def run : Task α → α
  | .done x => x
  | .paused resume => run (resume ())

/-- Lets others run before it starts. -/
def yielding (task : Task α) : Task α := .paused fun _ => task

end Task

/-- Goes on from a step unless it failed. -/
def Task.orFail (task : Task Outcome) (next : Progress → Task Outcome) : Task Outcome :=
  task.andThen fun outcome =>
    match outcome with
    | (p, .ok ()) => next p
    | (p, .error e) => .done (p, .error e)

/-- The iterations of a loop, with a pause before each one. -/
def renderEachPausing (name : String) (length : Nat) (body : Progress → Task Outcome) :
    (index : Nat) → List Json → Progress → Task Outcome
  | _, [], p => .done p.succeed
  | index, item :: rest, p =>
    Task.yielding ((body (p.bindItem name item index length)).orFail
      (renderEachPausing name length body (index + 1) rest))

def renderItemsPausing (name : String) (items : List Json) (body alternative : Progress → Task Outcome)
    (p : Progress) : Task Outcome :=
  match items with
  | [] => alternative p
  | items =>
    (renderEachPausing name items.length body 0 items p.openScope).andThen fun outcome =>
      .done outcome.closeScope

mutual

def renderNodePausing (env : Environment) : Node → Progress → Task Outcome
  | .text content, p => .done (p.write content).succeed
  | .output pipeline, p => .done (renderOutput env pipeline p)
  | .loop header body alternative, p =>
    match header.items env.mode p.context with
    | .error e => .done (p.fail e)
    | .ok items =>
      renderItemsPausing header.variableName items (renderNodesPausing env body)
        (renderAlternativePausing env alternative) p
termination_by structural n => n

def renderAlternativePausing (env : Environment) : Option (List Node) → Progress → Task Outcome
  | none, p => .done p.succeed
  | some nodes, p => renderNodesPausing env nodes p
termination_by structural o => o

def renderNodesPausing (env : Environment) : List Node → Progress → Task Outcome
  | [], p => .done p.succeed
  | node :: rest, p => (renderNodePausing env node p).orFail (renderNodesPausing env rest)
termination_by structural ns => ns

end

end TemplateQuery.Template
