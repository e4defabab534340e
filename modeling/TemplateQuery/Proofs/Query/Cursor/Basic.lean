import TemplateQuery.Query.Selection

/-!
# Reading at a position

The grammar of queries once more, for a reader that keeps the whole text and moves a cursor in it. White space is skipped
and words are run through one character at a time, while a sign or a keyword is first compared with the text and then
jumped over. Nothing keeps the cursor inside the text, and an error names a position because the cursor was there. The
steps that it takes stay on record, also when reading fails.
-/
namespace TemplateQuery.Query

/-! ## Steps -/

inductive Step where
  /-- The character at a position was compared with this one and is the same. -/
  | found (position : Nat) (c : Char)
  /-- The cursor went to a position. -/
  | moved (position : Nat)
deriving DecidableEq

/-- The steps of a cursor, the last one first. -/
abbrev Trail := List Step

/-- Where the cursor is: it starts at the beginning of the text. -/
def Trail.place : Trail → Nat
  | [] => 0
  | .moved position :: _ => position
  | .found _ _ :: earlier => Trail.place earlier

/-- A reader that goes on from the end of a trail. -/
def Cursor (α : Type) : Type := (text : List Char) → Trail → Except Error α × Trail

namespace Cursor

variable {α : Type}

instance : Monad Cursor where
  pure x := fun _ trail => (.ok x, trail)
  bind cursor next := fun text trail =>
    match cursor text trail with
    | (.ok x, trail) => next x text trail
    | (.error e, trail) => (.error e, trail)

def fail (e : Error) : Cursor α := fun _ trail => (.error e, trail)

def position : Cursor Nat := fun _ trail => (.ok trail.place, trail)

/-- How many characters there are from the cursor on. -/
def remaining : Cursor Nat := fun text trail => (.ok (text.length - trail.place), trail)

def peekAt (offset : Nat) : Cursor (Option Char) := fun text trail => (.ok text[trail.place + offset]?, trail)

def peek : Cursor (Option Char) := peekAt 0

/-- Whether the character at an offset is the given one. -/
def finds (offset : Nat) (c : Char) : Cursor Bool := fun text trail =>
  if text[trail.place + offset]? = some c then (.ok true, .found (trail.place + offset) c :: trail)
  else (.ok false, trail)

def goTo (position : Nat) : Cursor Unit := fun _ trail => (.ok (), .moved position :: trail)

def jump (width : Nat) : Cursor Unit := do
  let start ← position
  goTo (start + width)

/-- The next character, which is left behind. -/
def next : Cursor (Option Char) := do
  match ← peek with
  | some c => do
    jump 1
    return some c
  | none => return none

def lookahead (offset : Nat) : List Char → Cursor Bool
  | [] => return true
  | c :: token => do
    if ← finds offset c then lookahead (offset + 1) token else return false

/-! ## Words -/

/-- What the reader was looking for is not here. -/
def failHere (what : Expected) : Cursor α := do
  match ← peek with
  | some c => do
    let place ← position
    fail (.unexpected place c what)
  | none => fail (.ended what)

def runWithin (p : Char → Bool) : (more : Nat) → Cursor (List Char)
  | 0 => return []
  | more + 1 => do
    match ← peek with
    | some c =>
      if p c then do
        jump 1
        let cs ← runWithin p more
        return c :: cs
      else return []
    | none => return []

/-- The characters of a kind that come next. -/
def run (p : Char → Bool) : Cursor (List Char) := do
  let more ← remaining
  runWithin p more

def skip : Cursor Unit := do
  let _ ← run Text.isBlank

def expect (c : Char) : Cursor Unit := do
  skip
  let start ← position
  match ← next with
  | some d => if d = c then return () else fail (.unexpected start d (.char c))
  | none => fail (.ended (.char c))

def name : Cursor String := do
  skip
  match ← run isNameChar with
  | [] => failHere .identifier
  | cs => return String.ofList cs

/-- A keyword is jumped over if it is next and not the start of a longer name. -/
def eatKeyword (word : List Char) : Cursor Bool := do
  if ← lookahead 0 word then
    let after ← peekAt word.length
    if after.any isNameChar then return false
    else do
      jump word.length
      return true
  else return false

def hexDigit : Cursor Nat := do
  match (← next).bind Text.hexDigit? with
  | some digit => return digit
  | none => fail (.malformed .unicodeEscape)

def unicodeEscape : Cursor Char := do
  let a ← hexDigit
  let b ← hexDigit
  let c ← hexDigit
  let d ← hexDigit
  let n := ((a * 16 + b) * 16 + c) * 16 + d
  if 0xD800 ≤ n ∧ n ≤ 0xDFFF then fail (.malformed (.codePoint n)) else return Char.ofNat n

def escape : Cursor Char := do
  let letter ← next
  if letter = some 'u' then unicodeEscape
  else match letter.bind shortEscape? with
    | some c => return c
    | none => fail (.malformed .escape)

def quotedWithin (quote : Char) : (more : Nat) → Cursor (List Char)
  | 0 => fail (.ended (.closingQuote quote))
  | more + 1 => do
    match ← next with
    | none => fail (.ended (.closingQuote quote))
    | some c =>
      if c = quote then return []
      else if c = '\\' then do
        let x ← escape
        let xs ← quotedWithin quote more
        return x :: xs
      else do
        let xs ← quotedWithin quote more
        return c :: xs

/-- A string in the quotes of which the first was just read. -/
def string (quote : Char) : Cursor String := do
  let more ← remaining
  let xs ← quotedWithin quote more
  return String.ofList xs

/-- A result that depends on nothing in the text any more. -/
def ofExcept (x : Except Fault α) : Cursor α := fun text trail => (x.mapError (Fault.toError text.length), trail)

def signed : Cursor Bool := do
  if (← peek) = some '-' then do
    jump 1
    return true
  else return false

def digits : Cursor Digits := do
  let negative ← signed
  match ← run Char.isDigit with
  | [] => fail (.malformed .missingNumber)
  | digits => return ⟨negative, digits⟩

def integer : Cursor Int := do
  let d ← digits
  ofExcept d.integer

def fraction : Cursor (List Char) := do
  let point ← peek
  let first ← peekAt 1
  if point = some '.' ∧ first.any Char.isDigit then do
    jump 1
    run Char.isDigit
  else return []

def exponentSign : Cursor (List Char) := do
  let sign ← peek
  if sign = some '+' ∨ sign = some '-' then do
    jump 1
    return sign.toList
  else return []

def exponent : Cursor (Option ExponentText) := do
  let mark ← peek
  if mark = some 'e' ∨ mark = some 'E' then do
    jump 1
    let sign ← exponentSign
    let digits ← run Char.isDigit
    return some ⟨sign, digits⟩
  else return none

def number : Cursor Number := do
  let d ← digits
  let fraction ← fraction
  let exponent ← exponent
  ofExcept (numberOf d fraction exponent)

def constant : Cursor Json := do
  if ← eatKeyword "true".toList then return .bool true
  else if ← eatKeyword "false".toList then return .bool false
  else if ← eatKeyword "null".toList then return .null
  else failHere .literal

/-! ## Grammar -/

def listWithin (item : Cursor α) : (more : Nat) → Cursor (List α)
  | 0 => do
    let x ← item
    return [x]
  | more + 1 => do
    let x ← item
    skip
    if (← peek) = some ',' then do
      jump 1
      let xs ← listWithin item more
      return x :: xs
    else return [x]

/-- One item and, after each comma, one more. -/
def list (item : Cursor α) : Cursor (List α) := do
  let more ← remaining
  listWithin item more

def literal : Cursor Json := do
  match ← peek with
  | none => fail (.ended .literal)
  | some c =>
    if c = '\'' ∨ c = '"' then do
      jump 1
      let s ← string c
      return .string s
    else if c = '-' ∨ c.isDigit then do
      let n ← number
      return .number n
    else constant

/-- The rest of a list of literals after its opening bracket. -/
def literals : Cursor Json := do
  skip
  if (← peek) = some ']' then do
    jump 1
    return .array []
  else do
    let items ← list (do
      skip
      literal)
    expect ']'
    return .array items

def bound : Cursor (Option Int) := do
  match ← peek with
  | none => return none
  | some c =>
    if c = '-' ∨ c.isDigit then do
      let i ← integer
      return some i
    else return none

/-- The rest of a slice after its first colon. -/
def slice (start : Option Int) : Cursor Segment := do
  skip
  let stop ← bound
  skip
  if (← peek) = some ':' then do
    jump 1
    skip
    let step ← bound
    return .slice start stop step
  else return .slice start stop none

section

variable (expr : Cursor Expr)

def selector : Cursor Segment := do
  skip
  match ← peek with
  | none => fail (.ended .selector)
  | some c =>
    if c = '*' then do
      jump 1
      return .wildcard
    else if c = '\'' ∨ c = '"' then do
      jump 1
      let name ← string c
      return .child name
    else if c = '?' then do
      jump 1
      let e ← expr
      return .filter e
    else if c = ':' then do
      jump 1
      slice none
    else if c = '-' ∨ c.isDigit then do
      let i ← integer
      skip
      if (← peek) = some ':' then do
        jump 1
        slice (some i)
      else return .index i
    else failHere .selector

/-- The rest of a bracket after its opening. -/
def bracket : Cursor Segment := do
  let selectors ← list (selector expr)
  expect ']'
  match selectors with
  | [selector] => return selector
  | _ => return .union selectors

def child : Cursor Segment := do
  let name ← name
  return .child name

/-- The rest of a segment after two points. -/
def descent : Cursor Segment := do
  if (← peek) = some '[' then do
    jump 1
    let selector ← bracket expr
    return .descend selector
  else if (← peek) = some '*' then do
    jump 1
    return .descend .wildcard
  else do
    let selector ← child
    return .descend selector

/-- The rest of a segment after its first point. -/
def dotted : Cursor Segment := do
  if (← peek) = some '.' then do
    jump 1
    descent expr
  else if (← peek) = some '*' then do
    jump 1
    return .wildcard
  else child

/-- Segments until something else shows up. Then the cursor goes back to where the last one ended. -/
def segmentsWithin : (more : Nat) → Cursor (List Segment)
  | 0 => return []
  | more + 1 => do
    let start ← position
    skip
    if (← peek) = some '.' then do
      jump 1
      let segment ← dotted expr
      let segments ← segmentsWithin more
      return segment :: segments
    else if (← peek) = some '[' then do
      jump 1
      let segment ← bracket expr
      let segments ← segmentsWithin more
      return segment :: segments
    else do
      goTo start
      return []

def segments : Cursor (List Segment) := do
  let more ← remaining
  segmentsWithin expr more

def path (root : Root) : Cursor Expr := do
  let segments ← segments expr
  return .path root segments

/-- The rest of a function call after its opening parenthesis. -/
def call (name : String) : Cursor Expr := do
  skip
  if (← peek) = some ')' then do
    jump 1
    return .call name []
  else do
    let arguments ← list expr
    expect ')'
    return .call name arguments

def word (known : String → Bool) : Cursor Expr := do
  let start ← position
  let name ← name
  if name = "true" then return .literal (.bool true)
  else if name = "false" then return .literal (.bool false)
  else if name = "null" then return .literal .null
  else do
    skip
    if (← peek) = some '(' then
      if known name then do
        jump 1
        call expr name
      else fail (.unknownFunction name)
    else fail (.malformed (.strayWord name start))

def parenthesized : Cursor Expr := do
  let e ← expr
  expect ')'
  return e

/-- An operand of a comparison. -/
def primary (known : String → Bool) : Cursor Expr := do
  skip
  let second ← peekAt 1
  match ← peek with
  | none => fail (.ended .expression)
  | some c =>
    if c = '(' then do
      jump 1
      parenthesized expr
    else if c = '@' then do
      jump 1
      path expr .current
    else if c = '$' then do
      jump 1
      path expr .document
    else if c = '_' ∧ !second.any isNameChar then do
      jump 1
      path expr .extra
    else if c = '[' then do
      jump 1
      let x ← literals
      return .literal x
    else if Text.isAlphabetic c ∨ c = '_' then word expr known
    else do
      let x ← literal
      return .literal x

end

/-- The signs of comparisons, in the order in which they are tried, with the widths of the jumps over them. -/
def signs : List (List Char × Nat × Comparison) :=
  [(['=', '='], 2, .equal), (['!', '='], 2, .notEqual), (['<', '='], 2, .lessEqual), (['>', '='], 2, .greaterEqual),
    (['<'], 1, .less), (['>'], 1, .greater)]

def comparisonWord : Cursor (Option Comparison) := do
  if ← eatKeyword "in".toList then return some .isIn
  else if ← eatKeyword "contains".toList then return some .contains
  else return none

def comparison : List (List Char × Nat × Comparison) → Cursor (Option Comparison)
  | [] => comparisonWord
  | (sign, width, op) :: more => do
    if ← lookahead 0 sign then do
      jump width
      return some op
    else comparison more

def compared (primary : Cursor Expr) : Cursor Expr := do
  let left ← primary
  skip
  match ← comparison signs with
  | some op => do
    let right ← primary
    return .compare left op right
  | none => return left

def negatedWithin (operand : Cursor Expr) : (more : Nat) → Cursor Expr
  | 0 => operand
  | more + 1 => do
    skip
    let first ← peek
    let second ← peekAt 1
    if first = some '!' ∧ second ≠ some '=' then do
      jump 1
      let e ← negatedWithin operand more
      return .not e
    else operand

/-- Any number of exclamation marks before an operand. -/
def negated (operand : Cursor Expr) : Cursor Expr := do
  let more ← remaining
  negatedWithin operand more

def chainWithin (sign : Char) (join : Expr → Expr → Expr) (operand : Cursor Expr) : (more : Nat) → Expr → Cursor Expr
  | 0, left => return left
  | more + 1, left => do
    skip
    if ← lookahead 0 [sign, sign] then do
      jump 2
      let right ← operand
      chainWithin sign join operand more (join left right)
    else return left

/-- Operands joined by a doubled sign, to the left. -/
def joined (sign : Char) (join : Expr → Expr → Expr) (operand : Cursor Expr) : Cursor Expr := do
  let left ← operand
  let more ← remaining
  chainWithin sign join operand more left

def disjunction (primary : Cursor Expr) : Cursor Expr :=
  joined '|' .or (joined '&' .and (negated (compared primary)))

/-- A filter expression that nests less than `depth` deep. -/
def expr (known : String → Bool) : (depth : Nat) → Cursor Expr
  | 0 => failHere .expression
  | depth + 1 => disjunction (primary (expr known depth) known)

/-- The segments of a query. -/
def query (known : String → Bool) : Cursor (List Segment) := do
  skip
  if (← peek) = some '$' then do
    jump 1
    let depth ← remaining
    let segments ← segments (expr known depth)
    skip
    match ← peek with
    | some _ => failHere .endOfQuery
    | none => return segments
  else fail (.malformed .noRoot)

end Cursor

end TemplateQuery.Query
