import TemplateQuery.Query.Path
import TemplateQuery.Query.Words

/-!
# The grammar of queries

Readers for segments and filter expressions. Disjunction binds weakest, then conjunction, negation
and comparison; the first two associate to the left, and a comparison takes two primary operands.
Each level is a reader over the reader of the next, and an expression inside brackets or parentheses
is one level of nesting deeper, so a text of `n` characters never nests more than `n` deep.
-/
namespace TemplateQuery.Query

open Text (isBlank skipBlank)

/-- One item and, after each comma, one more. Every comma is a character, so `more` is their bound. -/
def commaList {α : Type} (item : Reading α) : (more : Nat) → Reading (List α)
  | 0, s => do
    let (x, rest) ← item s
    return ([x], rest)
  | more + 1, s => do
    let (x, rest) ← item s
    match skipBlank rest with
    | ',' :: rest =>
      let (xs, rest) ← commaList item more rest
      return (x :: xs, rest)
    | rest => return ([x], rest)

def readLiteral (s : List Char) : Except Fault (Json × List Char) :=
  match s with
  | [] => .error (.expected .literal [])
  | c :: rest =>
    if c = '\'' ∨ c = '"' then do
      let (t, rest) ← readString c rest
      return (.string t, rest)
    else if c = '-' ∨ c.isDigit then do
      let (n, rest) ← readNumber s
      return (.number n, rest)
    else match afterKeyword? "true".toList s with
      | some rest => .ok (.bool true, rest)
      | none =>
        match afterKeyword? "false".toList s with
        | some rest => .ok (.bool false, rest)
        | none =>
          match afterKeyword? "null".toList s with
          | some rest => .ok (.null, rest)
          | none => .error (.expected .literal s)

/-- The rest of a list of literals after its opening bracket. -/
def readList (s : List Char) : Except Fault (Json × List Char) :=
  match skipBlank s with
  | ']' :: rest => .ok (.array [], rest)
  | s => do
    let (items, rest) ← commaList (fun s => readLiteral (skipBlank s)) s.length s
    let rest ← expectChar ']' rest
    return (.array items, rest)

/-- The bound of a slice, if there is one. -/
def readBound (s : List Char) : Except Fault (Option Int × List Char) :=
  match s with
  | c :: _ =>
    if c = '-' ∨ c.isDigit then do
      let (i, rest) ← readInteger s
      return (some i, rest)
    else .ok (none, s)
  | [] => .ok (none, [])

/-- The rest of a slice after its first colon. -/
def readSlice (start : Option Int) (s : List Char) : Except Fault (Segment × List Char) := do
  let (stop, rest) ← readBound (skipBlank s)
  match skipBlank rest with
  | ':' :: rest =>
    let (step, rest) ← readBound (skipBlank rest)
    return (.slice start stop step, rest)
  | rest => return (.slice start stop none, rest)

section

variable (expr : Reading Expr)

/-- One selector inside brackets. -/
def readSelector (s : List Char) : Except Fault (Segment × List Char) :=
  match skipBlank s with
  | [] => .error (.expected .selector [])
  | c :: rest =>
    if c = '*' then .ok (.wildcard, rest)
    else if c = '\'' ∨ c = '"' then do
      let (name, rest) ← readString c rest
      return (.child name, rest)
    else if c = '?' then do
      let (e, rest) ← expr rest
      return (.filter e, rest)
    else if c = ':' then readSlice none rest
    else if c = '-' ∨ c.isDigit then do
      let (i, rest) ← readInteger (c :: rest)
      match skipBlank rest with
      | ':' :: rest => readSlice (some i) rest
      | rest => return (.index i, rest)
    else .error (.expected .selector (c :: rest))

/-- The rest of a bracket after its opening: one selector, or several as a union. -/
def readBracket (s : List Char) : Except Fault (Segment × List Char) := do
  let (selectors, rest) ← commaList (readSelector expr) s.length s
  let rest ← expectChar ']' rest
  match selectors with
  | [selector] => return (selector, rest)
  | _ => return (.union selectors, rest)

def readChild (s : List Char) : Except Fault (Segment × List Char) := do
  let (name, rest) ← readName s
  return (.child name, rest)

/-- The rest of a segment after two points. -/
def readDescent (s : List Char) : Except Fault (Segment × List Char) := do
  let (selector, rest) ← match s with
    | '[' :: rest => readBracket expr rest
    | '*' :: rest => .ok (.wildcard, rest)
    | s => readChild s
  return (.descend selector, rest)

/-- The rest of a segment after its first point. -/
def readDotted (s : List Char) : Except Fault (Segment × List Char) :=
  match s with
  | '.' :: rest => readDescent expr rest
  | '*' :: rest => .ok (.wildcard, rest)
  | s => readChild s

/-- Segments until something else shows up, which is left with the white space before it. -/
def readSegments : (more : Nat) → Reading (List Segment)
  | 0, s => .ok ([], s)
  | more + 1, s =>
    match skipBlank s with
    | '.' :: rest => do
      let (segment, rest) ← readDotted expr rest
      let (segments, rest) ← readSegments more rest
      return (segment :: segments, rest)
    | '[' :: rest => do
      let (segment, rest) ← readBracket expr rest
      let (segments, rest) ← readSegments more rest
      return (segment :: segments, rest)
    | _ => .ok ([], s)

def readPath (root : Root) (s : List Char) : Except Fault (Expr × List Char) := do
  let (segments, rest) ← readSegments expr s.length s
  return (.path root segments, rest)

/-- The rest of a function call after its opening parenthesis. -/
def readCall (name : String) (s : List Char) : Except Fault (Expr × List Char) :=
  match skipBlank s with
  | ')' :: rest => .ok (.call name [], rest)
  | s => do
    let (arguments, rest) ← commaList expr s.length s
    let rest ← expectChar ')' rest
    return (.call name arguments, rest)

/-- A word is a constant or calls a function that must be known. -/
def readWord (known : String → Bool) (s : List Char) : Except Fault (Expr × List Char) := do
  let (name, rest) ← readName s
  if name = "true" then return (.literal (.bool true), rest)
  else if name = "false" then return (.literal (.bool false), rest)
  else if name = "null" then return (.literal .null, rest)
  else match skipBlank rest with
    | '(' :: rest =>
      if known name then readCall expr name rest else throw (.unknownFunction name)
    | _ => throw (.strayWord name s)

def readParenthesized (s : List Char) : Except Fault (Expr × List Char) := do
  let (e, rest) ← expr s
  let rest ← expectChar ')' rest
  return (e, rest)

/-- An operand of a comparison. -/
def readPrimary (known : String → Bool) (s : List Char) : Except Fault (Expr × List Char) :=
  match skipBlank s with
  | [] => .error (.expected .expression [])
  | c :: rest =>
    if c = '(' then readParenthesized expr rest
    else if c = '@' then readPath expr .current rest
    else if c = '$' then readPath expr .document rest
    else if c = '_' ∧ !startsWithNameChar rest then readPath expr .extra rest
    else if c = '[' then do
      let (x, rest) ← readList rest
      return (.literal x, rest)
    else if Text.isAlphabetic c ∨ c = '_' then readWord expr known (c :: rest)
    else do
      let (x, rest) ← readLiteral (c :: rest)
      return (.literal x, rest)

end

/-- The comparison at the front, and what follows it. -/
def readComparison? : List Char → Option (Comparison × List Char)
  | '=' :: '=' :: rest => some (.equal, rest)
  | '!' :: '=' :: rest => some (.notEqual, rest)
  | '<' :: '=' :: rest => some (.lessEqual, rest)
  | '>' :: '=' :: rest => some (.greaterEqual, rest)
  | '<' :: rest => some (.less, rest)
  | '>' :: rest => some (.greater, rest)
  | s =>
    match afterKeyword? "in".toList s with
    | some rest => some (.isIn, rest)
    | none => (afterKeyword? "contains".toList s).map fun rest => (.contains, rest)

def readCompared (primary : Reading Expr) (s : List Char) : Except Fault (Expr × List Char) := do
  let (left, rest) ← primary s
  match readComparison? (skipBlank rest) with
  | some (op, rest) =>
    let (right, rest) ← primary rest
    return (.compare left op right, rest)
  | none => return (left, skipBlank rest)

/-- Any number of exclamation marks before an operand, except where one starts `!=`. -/
def readNegated (operand : Reading Expr) : (more : Nat) → Reading Expr
  | 0, s => operand s
  | more + 1, s =>
    match skipBlank s with
    | '!' :: '=' :: _ => operand s
    | '!' :: rest => do
      let (e, rest) ← readNegated operand more rest
      return (.not e, rest)
    | _ => operand s

/-- Operands joined by a doubled sign, to the left. -/
def readChain (sign : Char) (join : Expr → Expr → Expr) (operand : Reading Expr) :
    (more : Nat) → (left : Expr) → Reading Expr
  | 0, left, s => .ok (left, s)
  | more + 1, left, s =>
    match skipBlank s with
    | c :: d :: rest =>
      if c = sign ∧ d = sign then do
        let (right, rest) ← operand rest
        readChain sign join operand more (join left right) rest
      else .ok (left, c :: d :: rest)
    | rest => .ok (left, rest)

def readJoined (sign : Char) (join : Expr → Expr → Expr) (operand : Reading Expr)
    (s : List Char) : Except Fault (Expr × List Char) := do
  let (left, rest) ← operand s
  readChain sign join operand rest.length left rest

/-- An expression over a reader for its primary operands. -/
def readDisjunction (primary : Reading Expr) : Reading Expr :=
  readJoined '|' .or (readJoined '&' .and fun s => readNegated (readCompared primary) s.length s)

/-- A filter expression that nests less than `depth` deep. -/
def readExpr (known : String → Bool) : (depth : Nat) → Reading Expr
  | 0, s => .error (.expected .expression s)
  | depth + 1, s => readDisjunction (readPrimary (readExpr known depth) known) s

/-- The segments of a query, which starts at the document and fills the whole text. -/
def readQuery (known : String → Bool) (s : List Char) : Except Fault (List Segment) :=
  match skipBlank s with
  | '$' :: rest => do
    let (segments, rest) ← readSegments (readExpr known rest.length) rest.length rest
    match skipBlank rest with
    | [] => return segments
    | rest => throw (.expected .endOfQuery rest)
  | _ => .error (.malformed .noRoot)

end TemplateQuery.Query
