import TemplateQuery.Template.Error
import TemplateQuery.Text.Case

/-!
# Filters

The transformations of a value that a pipeline may call: the built-in ones, and those that apply a query. A
query filter sees the globals of the render as its extra value.
-/
namespace TemplateQuery.Template

inductive Filter where
  | join
  | size
  | first
  | last
  | upcase
  | downcase
  | default
  | find (settings : QuerySettings)

namespace Filter

/-- Whether the filter takes an undefined value even in strict mode. -/
def acceptsUndefined : Filter → Bool
  | .default => true
  | _ => false

/-- The text of the first argument, or a space if there is none. -/
def separator : List Value → Except Error String
  | [] => .ok " "
  | .defined x :: _ => .ok (Value.jsonText x)
  | .undefined _ :: _ => .error (.argument "join" (.undefined 1))

def joined (separator : String) : Value → String
  | .defined (.array items) => separator.intercalate (items.map Value.jsonText)
  | v => v.text

def sizeOf : Value → Nat
  | .defined (.array items) => items.length
  | .defined (.object members) => members.length
  | .defined (.string s) => s.toList.length
  | _ => 0

def firstOf : Value → Json
  | .defined (.array (x :: _)) => x
  | _ => .null

def lastOf : Value → Json
  | .defined (.array items) => items.getLast?.getD .null
  | _ => .null

/-- The values that a default replaces: undefined, null, false and whatever is empty. -/
def isBlank : Value → Bool
  | .undefined _ => true
  | .defined .null => true
  | .defined (.bool b) => !b
  | .defined (.string s) => s.isEmpty
  | .defined (.array items) => items.isEmpty
  | .defined (.object members) => members.isEmpty
  | .defined (.number _) => false

/-- The path that a query filter is given. -/
def pathArgument : List Value → Except Error String
  | [.defined (.string path)] => .ok path
  | [_] => .error (.argument "find" .notAPath)
  | args => .error (.argument "find" (.count args.length))

def findIn (settings : QuerySettings) (input : Value) (args : List Value) (globals : Json) : Except Error Value := do
  let path ← pathArgument args
  match settings.apply input path globals with
  | .ok applied => return applied.toValue
  | .error failure => throw (.argument "find" (.query failure))

def apply (filter : Filter) (input : Value) (args : List Value) (globals : Json) : Except Error Value :=
  match filter with
  | .join => do
    let s ← separator args
    return .defined (.string (joined s input))
  | .size => .ok (.defined (.ofNat (sizeOf input)))
  | .first => .ok (.defined (firstOf input))
  | .last => .ok (.defined (lastOf input))
  | .upcase => .ok (.defined (.string (Text.upper input.text)))
  | .downcase => .ok (.defined (.string (Text.lower input.text)))
  | .default => .ok (if isBlank input then args.head?.getD (.defined (.string "")) else input)
  | .find settings => findIn settings input args globals

end Filter

end TemplateQuery.Template
