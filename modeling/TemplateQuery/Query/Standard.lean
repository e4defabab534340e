import TemplateQuery.Query.Function

/-!
# The standard functions

`length`, `count`, `value`, `match` and `search`. A call with the wrong number of arguments fails, and so
does a call of `count` or `value` on something that is no path; everything else has an answer. What a pattern
is and where it matches is left to an engine, of which `match` and `search` only ask what they need.
-/
namespace TemplateQuery.Query

/-- Compiles the texts that are patterns, and tells whether a compiled pattern matches somewhere in a string. -/
class PatternEngine where
  Compiled : Type
  compile? : String → Option Compiled
  isMatch : Compiled → String → Bool

/-- Whether a text is a pattern that matches somewhere in the subject. A text that is no pattern matches nothing. -/
def searches [PatternEngine] (text subject : String) : Bool :=
  match PatternEngine.compile? text with
  | some pattern => PatternEngine.isMatch pattern subject
  | none => false

def argumentCountError (name : String) (taken given : Nat) : Error :=
  .evaluation (name ++ "() takes " ++ toString taken ++ " argument(s), " ++ toString given ++ " given")

def pathExpectedError (name : String) : Error :=
  .evaluation (name ++ "() expects a path argument")

/-- The characters of a string, the elements of an array or the members of an object. -/
def lengthOf : Option Json → Answer
  | some (.string s) => .value (.ofNat s.toList.length)
  | some (.array items) => .value (.ofNat items.length)
  | some (.object members) => .value (.ofNat members.length)
  | _ => .nothing

def length : Function
  | [x] => .ok (lengthOf x.value?)
  | args => .error (argumentCountError "length" 1 args.length)

/-- The number of nodes of a path. -/
def count : Function
  | [.nodes items] => .ok (.value (.ofNat items.length))
  | [_] => .error (pathExpectedError "count")
  | args => .error (argumentCountError "count" 1 args.length)

/-- The one node of a path that has just one. -/
def value : Function
  | [.nodes [x]] => .ok (.value x)
  | [.nodes _] => .ok .nothing
  | [_] => .error (pathExpectedError "value")
  | args => .error (argumentCountError "value" 1 args.length)

/-- Tests one string against a pattern made from the other. Other operands do not match. -/
def patternTest [PatternEngine] (name : String) (pattern : String → String) : Function
  | [x, y] =>
    match x.value?, y.value? with
    | some (.string subject), some (.string text) => .ok (.logical (searches (pattern text) subject))
    | _, _ => .ok (.logical false)
  | args => .error (argumentCountError name 2 args.length)

/-- The text of a pattern that has to cover the whole subject. -/
def anchored (text : String) : String := "^(?:" ++ text ++ ")$"

def standardFunctions [PatternEngine] : FunctionTable :=
  Dict.ofList [
    ("length", length),
    ("count", count),
    ("match", patternTest "match" anchored),
    ("search", patternTest "search" id),
    ("value", value)]

end TemplateQuery.Query
