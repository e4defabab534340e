import TemplateQuery.Template.Cooperative

/-!
# Templates

A template is read once in an environment and rendered any number of times. Its context holds the globals of the
environment, over them its own, and over both the data of the render.
-/
namespace TemplateQuery

open Template

structure Template where
  environment : Environment
  nodes : List Node
  globals : Dict Json

namespace Template

/-- Reads a template that has globals of its own. -/
def ofText (environment : Environment) (source : String) (globals : Dict Json) : Except Error Template := do
  let markup ← scan source
  let nodes ← nodesOfMarkup environment markup
  return ⟨environment, nodes, globals⟩

/-- The context that a render starts with. Data that is neither an object nor null is refused. -/
def context (template : Template) (data : Json) : Except Error RenderContext :=
  let below := Dict.merge template.environment.globals template.globals
  match data with
  | .object members => .ok (.ofGlobals (.object (below.merge members)))
  | .null => .ok (.ofGlobals (.object below))
  | other => .error (.type (.renderData other))

/-- The text of a finished render. -/
def resultOf (outcome : Outcome) : Except Error String := outcome.2.map fun _ => outcome.1.output

def render (template : Template) (data : Json) : Except Error String := do
  let context ← template.context data
  resultOf (renderNodes template.environment template.nodes ⟨context, ""⟩)

/-- A render that pauses in its loops. -/
def renderPausing (template : Template) (data : Json) : Task (Except Error String) :=
  match template.context data with
  | .error e => .done (.error e)
  | .ok context =>
    (renderNodesPausing template.environment template.nodes ⟨context, ""⟩).andThen fun outcome =>
      .done (resultOf outcome)

end Template

end TemplateQuery
