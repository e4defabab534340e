import TemplateQuery.Template.Environment

/-!
# Loops

A loop header is `name in source`, then perhaps `| 'path'`, then modifiers in any order with commas anywhere between
them. The items of a loop are those of its target with the offset dropped, cut to the limit and then reversed.
-/
namespace TemplateQuery.Template

structure Modifiers where
  limit : Option Expression
  offset : Option Expression
  reversed : Bool
deriving Inhabited

/-- No limit, no offset, in order. -/
def Modifiers.initial : Modifiers := ⟨none, none, false⟩

/-- A path in a loop header, with the policy for its failures. -/
structure LoopQuery where
  query : Query.Compiled
  policy : Policy

structure LoopHeader where
  variableName : String
  source : Expression
  query : Option LoopQuery
  modifiers : Modifiers

/-! ## Reading -/

/-- Modifiers to the end of the tokens, added to those already read. -/
def readModifiers : (fuel : Nat) → Modifiers → List Token → Checked Modifiers
  | _, m, [] => .ok m
  | 0, m, _ => .ok m
  | fuel + 1, m, .comma :: rest => readModifiers fuel m rest
  | fuel + 1, m, .word w :: rest =>
    if w = "reversed" then readModifiers fuel { m with reversed := true } rest
    else if w = "limit" then do
      let rest ← expectToken .colon rest
      let (e, rest) ← readExpression rest
      readModifiers fuel { m with limit := some e } rest
    else if w = "offset" then do
      let rest ← expectToken .colon rest
      let (e, rest) ← readExpression rest
      readModifiers fuel { m with offset := some e } rest
    else .error (.strayModifier (.word w))
  | _ + 1, _, t :: _ => .error (.strayModifier t)

def Modifiers.ofTokens (ts : List Token) : Checked Modifiers := readModifiers ts.length .initial ts

def Modifiers.ofText (source : String) : Checked Modifiers := do
  let ts ← tokens source
  Modifiers.ofTokens ts

def expectIn (name : String) : List Token → Checked (List Token)
  | .word w :: rest => if w = "in" then .ok rest else .error (.missingIn name)
  | _ => .error (.missingIn name)

/-- The path after a pipe. -/
def readLoopQuery (settings : QuerySettings) : List Token → Checked (LoopQuery × List Token)
  | .string path :: rest =>
    match Query.compile settings.functions path with
    | .ok query => .ok (⟨query, settings.policy⟩, rest)
    | .error e => .error (.path path e)
  | _ => .error .missingPath

/-- A query, if the tag takes one and a pipe comes next. -/
def readOptionalQuery : BlockTag → List Token → Checked (Option LoopQuery × List Token)
  | .queryLoop settings, .pipe :: rest => do
    let (q, rest) ← readLoopQuery settings rest
    return (some q, rest)
  | _, ts => .ok (none, ts)

def LoopHeader.ofTokens (tag : BlockTag) (ts : List Token) : Checked LoopHeader := do
  let (name, rest) ← expectWord ts
  let rest ← expectIn name rest
  let (source, rest) ← readExpression rest
  let (query, rest) ← readOptionalQuery tag rest
  let modifiers ← Modifiers.ofTokens rest
  return ⟨name, source, query, modifiers⟩

def LoopHeader.ofText (tag : BlockTag) (header : String) : Checked LoopHeader := do
  let ts ← tokens header
  LoopHeader.ofTokens tag ts

/-! ## Items -/

/-- The greatest count of items that a number can name. -/
def greatestCount : Nat := twoPow 64 - 1

/-- A number as a count: fractions are cut off, negative numbers count as zero and large ones as the greatest count. -/
def countOf : Number → Nat
  | .int i => min i.toNat greatestCount
  | .real x => min x.floorNat greatestCount

/-- The value of a limit or an offset, where null and undefined ones are none. -/
def boundOf (name : String) : Value → Except Error (Option Nat)
  | .defined (.number n) => .ok (some (countOf n))
  | .defined .null => .ok none
  | .undefined _ => .ok none
  | .defined other => .error (.type (.loopBound name other))

def evaluateBound (context : RenderContext) (name : String) : Option Expression → Except Error (Option Nat)
  | none => .ok none
  | some e => boundOf name (e.evaluate context)

/-- The items of a target: the elements of an array or the pairs of name and value of an object. -/
def itemsOf : Value → List Json
  | .defined (.array items) => items
  | .defined (.object members) => members.map fun (key, x) => .array [.string key, x]
  | _ => []

def Modifiers.apply (m : Modifiers) (context : RenderContext) (items : List Json) : Except Error (List Json) := do
  let offset ← evaluateBound context "offset" m.offset
  let limit ← evaluateBound context "limit" m.limit
  let items := items.drop (offset.getD 0)
  let items := match limit with
    | some n => items.take n
    | none => items
  return if m.reversed then items.reverse else items

/-- The items to iterate over, where an undefined target is an error in strict mode. -/
def Modifiers.itemsOf (m : Modifiers) (mode : UndefinedMode) (context : RenderContext) (target : Value) :
    Except Error (List Json) := do
  mode.check target
  m.apply context (Template.itemsOf target)

/-- The value to iterate over: the source, or what the query finds in it. -/
def LoopHeader.target (header : LoopHeader) (context : RenderContext) : Except Error Value :=
  let source := header.source.evaluate context
  match header.query with
  | none => .ok source
  | some q =>
    match applyCompiled q.policy q.query source context.globals with
    | .ok applied => .ok applied.toValue
    | .error failure => .error (.type (.query failure))

def LoopHeader.items (header : LoopHeader) (mode : UndefinedMode) (context : RenderContext) :
    Except Error (List Json) := do
  let target ← header.target context
  header.modifiers.itemsOf mode context target

/-- What `forloop` holds in the iteration at an index of a loop over `length` items. -/
def loopState (index length : Nat) : Json :=
  .object [
    ("index", .ofNat (index + 1)),
    ("index0", .ofNat index),
    ("rindex", .ofNat (length - index)),
    ("rindex0", .ofNat (length - index - 1)),
    ("first", .bool (index == 0)),
    ("last", .bool (index + 1 == length)),
    ("length", .ofNat length)]

/-- Binds the loop variable, and `forloop` after it. -/
def bindItem (name : String) (item : Json) (index length : Nat) (context : RenderContext) : RenderContext :=
  (context.bind name item).bind "forloop" (loopState index length)

end TemplateQuery.Template
