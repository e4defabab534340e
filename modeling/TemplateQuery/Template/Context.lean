import TemplateQuery.Json.Basic

/-!
# Render contexts

The names a template can see: local scopes, the innermost first, and below them the globals, which never change
during a render.
-/
namespace TemplateQuery.Template

structure RenderContext where
  /-- An object; anything else resolves no name. -/
  globals : Json
  scopes : List (Dict Json)
deriving Inhabited

namespace RenderContext

def ofGlobals (globals : Json) : RenderContext := ⟨globals, []⟩

def resolve (context : RenderContext) (name : String) : Option Json :=
  match context.scopes.findSome? fun scope => Dict.get? scope name with
  | some value => some value
  | none => context.globals.get? name

def push (context : RenderContext) : RenderContext := { context with scopes := [] :: context.scopes }

/-- Closes the innermost scope, if one is open. -/
def pop (context : RenderContext) : RenderContext := { context with scopes := context.scopes.tail }

/-- Binds a name in the innermost scope, opening one if none is open. -/
def bind (context : RenderContext) (name : String) (value : Json) : RenderContext :=
  match context.scopes with
  | [] => { context with scopes := [[(name, value)]] }
  | scope :: outer => { context with scopes := scope.put name value :: outer }

end RenderContext

end TemplateQuery.Template
