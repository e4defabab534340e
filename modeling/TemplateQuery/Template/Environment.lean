import TemplateQuery.Template.Expression
import TemplateQuery.Template.Filter
import TemplateQuery.Template.Undefined

/-!
# Environments

The filters and block tags that templates may use, by name, with the settings that all of them share. A pipeline is
evaluated in an environment: in strict mode an undefined value stops it at the first filter that does not accept
one.
-/
namespace TemplateQuery.Template

/-- A loop tag; with query settings its header may hold a path to apply to the source. -/
inductive BlockTag where
  | loop
  | queryLoop (settings : QuerySettings)

structure Environment where
  filters : Dict Filter
  tags : Dict BlockTag
  mode : UndefinedMode
  globals : Dict Json

namespace Environment

/-- The built-in filters and the plain loop. -/
def standard : Environment where
  filters := [("join", .join), ("size", .size), ("first", .first), ("last", .last), ("upcase", .upcase),
    ("downcase", .downcase), ("default", .default)]
  tags := [("for", .loop)]
  mode := .lenient
  globals := []

/-- Adds a filter or replaces the one of that name. -/
def withFilter (env : Environment) (name : String) (filter : Filter) : Environment :=
  { env with filters := Dict.put env.filters name filter }

/-- Adds a tag or replaces the one of that name. -/
def withTag (env : Environment) (name : String) (tag : BlockTag) : Environment :=
  { env with tags := Dict.put env.tags name tag }

/-- The standard environment with a query filter and a query loop of the same settings. -/
def withQueries (settings : QuerySettings) : Environment :=
  (standard.withFilter "find" (.find settings)).withTag "for" (.queryLoop settings)

/-- The environment as a listing shows it. -/
def listing (env : Environment) : String :=
  "Environment \x7b filters: " ++ Text.listedAll (Dict.keys env.filters)
    ++ ", tags: " ++ Text.listedAll (Dict.keys env.tags)
    ++ ", undefined: " ++ env.mode.listing ++ " \x7d"

end Environment

/-- The value after one filter. -/
def FilterCall.run (env : Environment) (context : RenderContext) (call : FilterCall) (input : Value) :
    Except Error Value :=
  match Dict.get? env.filters call.name with
  | none => .error (.unknownFilter call.name)
  | some filter => do
    if !filter.acceptsUndefined then env.mode.check input
    filter.apply input (call.arguments.map (Expression.evaluate context)) context.globals

/-- The value after all filters, from the left. -/
def runCalls (env : Environment) (context : RenderContext) : List FilterCall → Value → Except Error Value
  | [], value => .ok value
  | call :: rest, value => do
    let next ← call.run env context value
    runCalls env context rest next

def Pipeline.evaluate (env : Environment) (context : RenderContext) (p : Pipeline) : Except Error Value :=
  runCalls env context p.calls (p.source.evaluate context)

end TemplateQuery.Template
