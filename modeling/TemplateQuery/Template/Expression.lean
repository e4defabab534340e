import TemplateQuery.Template.Context
import TemplateQuery.Template.Tokenize

/-!
# Expressions

A literal or a reference: a variable with a path of keys and indices into its value. A path may also take the
`first` and the `last` element of an array by these names. An expression can be followed by filter calls, which
make a pipeline.
-/
namespace TemplateQuery.Template

inductive Step where
  | key (name : String)
  | index (position : Int)
deriving DecidableEq, Inhabited

inductive Expression where
  | literal (value : Json)
  | reference (name : String) (path : List Step)
deriving Inhabited

structure FilterCall where
  name : String
  arguments : List Expression
deriving Inhabited

structure Pipeline where
  source : Expression
  calls : List FilterCall
deriving Inhabited

/-! ## Evaluation -/

/-- The position of an index, where a negative one counts from the end, unless it lies before the start. -/
def elementPosition? (length : Nat) (index : Int) : Option Nat := (if index < 0 then length + index else index).toNat?

/-- The value at one step. -/
def Step.get? (value : Json) : Step → Option Json
  | .key name =>
    match value with
    | .object members => Dict.get? members name
    | .array items =>
      if name = "first" then items.head?
      else if name = "last" then items.getLast?
      else none
    | _ => none
  | .index position =>
    match value with
    | .array items => (elementPosition? items.length position).bind (items[·]?)
    | _ => none

/-- The value at the end of a path. -/
def valueAt? (value : Json) : List Step → Option Json
  | [] => some value
  | step :: rest =>
    match step.get? value with
    | some next => valueAt? next rest
    | none => none

def Step.text : Step → String
  | .key name => "." ++ name
  | .index position => "[" ++ toString position ++ "]"

def pathText (path : List Step) : String := String.join (path.map Step.text)

def Expression.text : Expression → String
  | .literal value => value.compact
  | .reference name path => name ++ pathText path

def undefinedHint (name : String) : String := "'" ++ name ++ "' is undefined"

/-- The value of an expression; a reference that leads nowhere is undefined. -/
def Expression.evaluate (context : RenderContext) : Expression → Value
  | .literal value => .defined value
  | .reference name path =>
    match context.resolve name with
    | none => .undefined (undefinedHint name)
    | some root =>
      match valueAt? root path with
      | some value => .defined value
      | none => .undefined (undefinedHint (name ++ pathText path))

/-! ## Reading -/

/-- The rest after a token that must come next. -/
def expectToken (t : Token) : List Token → Checked (List Token)
  | found :: rest => if found = t then .ok rest else .error (.expected (.token t) (some found))
  | [] => .error (.expected (.token t) none)

def expectWord : List Token → Checked (String × List Token)
  | .word w :: rest => .ok (w, rest)
  | found :: _ => .error (.expected .identifier (some found))
  | [] => .error (.expected .identifier none)

/-- The longest path at the front. -/
def readPath : List Token → Checked (List Step × List Token)
  | .dot :: .word w :: rest => do
    let (path, rest) ← readPath rest
    return (.key w :: path, rest)
  | .dot :: rest => .error (.expected .identifier rest.head?)
  | .openBracket :: .string s :: .closeBracket :: rest => do
    let (path, rest) ← readPath rest
    return (.key s :: path, rest)
  | .openBracket :: .int i :: .closeBracket :: rest => do
    let (path, rest) ← readPath rest
    return (.index i :: path, rest)
  | .openBracket :: .string _ :: rest => .error (.expected (.token .closeBracket) rest.head?)
  | .openBracket :: .int _ :: rest => .error (.expected (.token .closeBracket) rest.head?)
  | .openBracket :: _ => .error .bracketKey
  | rest => .ok ([], rest)

/-- The constant that a word stands for, if it is none of the variables. -/
def constant? (word : String) : Option Json :=
  if word = "true" then some (.bool true)
  else if word = "false" then some (.bool false)
  else if word = "nil" ∨ word = "null" then some .null
  else none

def readExpression : List Token → Checked (Expression × List Token)
  | .string s :: rest => .ok (.literal (.string s), rest)
  | .int i :: rest => .ok (.literal (.ofInt i), rest)
  | .float x :: rest => .ok (.literal (.ofBinary64 x), rest)
  | .word w :: rest =>
    match constant? w with
    | some value => .ok (.literal value, rest)
    | none => do
      let (path, rest) ← readPath rest
      return (.reference w path, rest)
  | found :: _ => .error (.expected .operand (some found))
  | [] => .error (.expected .operand none)

/-- An argument and, after each comma, one more. -/
def readArguments : (fuel : Nat) → List Token → Checked (List Expression × List Token)
  | 0, _ => .error (.expected .operand none)
  | fuel + 1, ts => do
    let (e, rest) ← readExpression ts
    match rest with
    | .comma :: rest =>
      let (es, rest) ← readArguments fuel rest
      return (e :: es, rest)
    | rest => return ([e], rest)

/-- The call of a filter after its pipe. -/
def readCall (ts : List Token) : Checked (FilterCall × List Token) := do
  let (name, rest) ← expectWord ts
  match rest with
  | .colon :: rest =>
    let (arguments, rest) ← readArguments (rest.length + 1) rest
    return (⟨name, arguments⟩, rest)
  | rest => return (⟨name, []⟩, rest)

/-- Filter calls to the end of the tokens; each of them takes a token at least. -/
def readCalls : (fuel : Nat) → List Token → Checked (List FilterCall)
  | _, [] => .ok []
  | fuel + 1, .pipe :: rest => do
    let (call, rest) ← readCall rest
    let calls ← readCalls fuel rest
    return call :: calls
  | _, t :: _ => .error (.trailing t)

def Pipeline.ofTokens (ts : List Token) : Checked Pipeline := do
  let (source, rest) ← readExpression ts
  let calls ← readCalls rest.length rest
  return ⟨source, calls⟩

def Pipeline.ofText (source : String) : Checked Pipeline := do
  let ts ← tokens source
  Pipeline.ofTokens ts

end TemplateQuery.Template
