import TemplateQuery.Json.Printer

/-!
# Values in templates

A value is JSON data or the undefined marker, which says why there is no data.
-/
namespace TemplateQuery

inductive Value where
  | defined (json : Json)
  | undefined (hint : String)
deriving Inhabited

/-- What a message calls a value. -/
inductive ValueKind where
  | nil
  | boolean
  | number
  | string
  | array
  | object
  | undefined
deriving DecidableEq, Inhabited

def ValueKind.text : ValueKind → String
  | .nil => "nil"
  | .boolean => "a boolean"
  | .number => "a number"
  | .string => "a string"
  | .array => "an array"
  | .object => "an object"
  | .undefined => "an undefined value"

namespace Value

def kind : Value → ValueKind
  | .undefined _ => .undefined
  | .defined .null => .nil
  | .defined (.bool _) => .boolean
  | .defined (.number _) => .number
  | .defined (.string _) => .string
  | .defined (.array _) => .array
  | .defined (.object _) => .object

def isUndefined : Value → Bool
  | .undefined _ => true
  | .defined _ => false

/-- Everything but null, false and undefined. -/
def isTruthy : Value → Bool
  | .undefined _ => false
  | .defined .null => false
  | .defined (.bool b) => b
  | .defined _ => true

mutual

/-- The text of data in a page: strings as they are, arrays run together, objects as JSON. -/
def jsonText : Json → String
  | .null => ""
  | .string s => s
  | .bool b => if b then "true" else "false"
  | .number n => n.text
  | .array items => itemsText items
  | .object members => (Json.object members).compact
termination_by structural x => x

def itemsText : List Json → String
  | [] => ""
  | x :: rest => jsonText x ++ itemsText rest
termination_by structural x => x

end

/-- The text of a value in a page, where an undefined one has none. -/
def text : Value → String
  | .defined json => jsonText json
  | .undefined _ => ""

end Value

end TemplateQuery
