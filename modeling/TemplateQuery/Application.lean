import TemplateQuery.Policy
import TemplateQuery.Query.Selection
import TemplateQuery.Query.Standard
import TemplateQuery.Template.Value

/-!
# Applying queries to values

A query can fail to apply for three reasons, found in this order: the value is no array or object, the path
does not compile, its evaluation fails. What a failure then amounts to is decided by the policy alone.
-/
namespace TemplateQuery

inductive FailureCause where
  | wrongInput (found : ValueKind)
  | invalidPath (error : Query.Error)
  | evaluation (error : Query.Error)
deriving DecidableEq, Inhabited

/-- Why a path could not be applied. -/
structure Failure where
  path : String
  cause : FailureCause
deriving DecidableEq, Inhabited

namespace Failure

def message (f : Failure) : String :=
  match f.cause with
  | .wrongInput found =>
    "expected an array or object to apply '" ++ f.path ++ "' to, found " ++ found.text
  | .invalidPath e => "invalid JSONPath '" ++ f.path ++ "': " ++ e.message
  | .evaluation e => "error evaluating JSONPath '" ++ f.path ++ "': " ++ e.message

/-- The query error behind the failure, if there is one. -/
def queryError? (f : Failure) : Option Query.Error :=
  match f.cause with
  | .wrongInput _ => none
  | .invalidPath e => some e
  | .evaluation e => some e

end Failure

/-- What applying a query gives unless it raises. -/
inductive Applied where
  | found (values : List Json)
  | undefined (hint : String)
deriving Inhabited

def Applied.toValue : Applied → Value
  | .found values => .defined (.array values)
  | .undefined hint => .undefined hint

/-- The value as data that a query can start from. -/
def traversable (path : String) (value : Value) : Except Failure Json :=
  match value with
  | .defined (.array items) => .ok (.array items)
  | .defined (.object members) => .ok (.object members)
  | v => .error ⟨path, .wrongInput v.kind⟩

def runQuery (query : Query.Compiled) (document extra : Json) : Except Failure (List Json) :=
  match query.run document extra with
  | .ok values => .ok values
  | .error e => .error ⟨query.source, .evaluation e⟩

def compileQuery (functions : Query.FunctionTable) (path : String) : Except Failure Query.Compiled :=
  match Query.compile functions path with
  | .ok query => .ok query
  | .error e => .error ⟨path, .invalidPath e⟩

/-- The outcome of a query under a policy. -/
def Policy.resolve (policy : Policy) : Except Failure (List Json) → Except Failure Applied
  | .ok values => .ok (.found values)
  | .error failure =>
    match policy with
    | .raise => .error failure
    | .undefined => .ok (.undefined failure.message)
    | .empty => .ok (.found [])

/-- The function table and the policy that a filter or a tag applies its queries with. -/
structure QuerySettings where
  policy : Policy
  functions : Query.FunctionTable

def QuerySettings.standard [Query.PatternEngine] (policy : Policy) : QuerySettings := ⟨policy, Query.standardFunctions⟩

/-- Applies a path that is compiled only once the value turns out to be traversable. -/
def QuerySettings.apply (settings : QuerySettings) (value : Value) (path : String) (extra : Json) :
    Except Failure Applied :=
  settings.policy.resolve do
    let document ← traversable path value
    let query ← compileQuery settings.functions path
    runQuery query document extra

/-- Applies a query that is compiled already. -/
def applyCompiled (policy : Policy) (query : Query.Compiled) (value : Value) (extra : Json) :
    Except Failure Applied :=
  policy.resolve do
    let document ← traversable query.source value
    runQuery query document extra

end TemplateQuery
