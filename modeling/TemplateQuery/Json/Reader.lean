import TemplateQuery.Json.Basic
import TemplateQuery.Number.Stepwise
import TemplateQuery.Text.Basic

/-!
# Reading JSON documents

The strict grammar of JSON, with arrays and objects nested less than 128 deep. A member name that
is repeated keeps its first place and takes its last value. Whole numbers from `-2 ^ 63` to
`2 ^ 64 - 1` stay whole, except for a negative zero; all other numbers are read stepwise.
-/
namespace TemplateQuery.Json

abbrev Reading (α : Type) := List Char → Option (α × List Char)

def skipSpace : List Char → List Char
  | [] => []
  | c :: rest => if c = ' ' ∨ c = '\t' ∨ c = '\n' ∨ c = '\r' then skipSpace rest else c :: rest

/-- The number of four hexadecimal digits. -/
def unit? (a b c d : Char) : Option Nat := do
  let a ← Text.hexDigit? a
  let b ← Text.hexDigit? b
  let c ← Text.hexDigit? c
  let d ← Text.hexDigit? d
  return ((a * 16 + b) * 16 + c) * 16 + d

/--
The character that an escaped 16-bit unit completes, and a high surrogate that still waits for its second half. A
lone surrogate is refused.
-/
def joinUnit (high : Option Nat) (n : Nat) : Option (Option Char × Option Nat) :=
  let isHigh := 0xD800 ≤ n ∧ n ≤ 0xDBFF
  let isLow := 0xDC00 ≤ n ∧ n ≤ 0xDFFF
  match high with
  | some h => if isLow then some (some (Char.ofNat (0x10000 + (h - 0xD800) * 0x400 + (n - 0xDC00))), none) else none
  | none => if isHigh then some (none, some n) else if isLow then none else some (some (Char.ofNat n), none)

def shortEscape? (c : Char) : Option Char :=
  if c = '"' ∨ c = '\\' ∨ c = '/' then some c
  else if c = 'b' then some '\x08'
  else if c = 'f' then some '\x0c'
  else if c = 'n' then some '\n'
  else if c = 'r' then some '\r'
  else if c = 't' then some '\t'
  else none

/--
The rest of a string after its opening quote; `done` holds the characters before, last first, and `high` a surrogate
before that waits for its second half.
-/
def readString (done : List Char) (high : Option Nat) : List Char → Option (String × List Char)
  | [] => none
  | c :: rest =>
    if c = '"' then (if high.isSome then none else some (String.ofList done.reverse, rest))
    else if c = '\\' then
      match rest with
      | [] => none
      | 'u' :: h₁ :: h₂ :: h₃ :: h₄ :: rest => do
        let n ← unit? h₁ h₂ h₃ h₄
        let (x, high) ← joinUnit high n
        readString (x.toList ++ done) high rest
      | e :: rest =>
        match shortEscape? e with
        | some x => if high.isSome then none else readString (x :: done) none rest
        | none => none
    else if high.isSome || c.toNat < 0x20 then none
    else readString (c :: done) none rest

/-- The digits at the front, and what follows them. -/
def takeDigits (s : List Char) : List Char × List Char := (s.takeWhile Char.isDigit, s.dropWhile Char.isDigit)

/-- The digits before the point: a zero stands alone. -/
def readWhole : Reading (List Char)
  | '0' :: rest => if (takeDigits rest).1.isEmpty then some (['0'], rest) else none
  | s => let (digits, rest) := takeDigits s; if digits.isEmpty then none else some (digits, rest)

/-- A point and at least one digit, or nothing. -/
def readFraction : Reading (List Char)
  | '.' :: s => let (digits, rest) := takeDigits s; if digits.isEmpty then none else some (digits, rest)
  | s => some ([], s)

def readExponentDigits (negative : Bool) (s : List Char) : Option (Option Int × List Char) :=
  let (digits, rest) := takeDigits s
  let n : Int := Text.decimalValue digits
  if digits.isEmpty then none else some (some (if negative then -n else n), rest)

/-- An exponent, if one is there. -/
def readExponent : Reading (Option Int)
  | c :: s =>
    if c = 'e' ∨ c = 'E' then
      match s with
      | '+' :: rest => readExponentDigits false rest
      | '-' :: rest => readExponentDigits true rest
      | rest => readExponentDigits false rest
    else some (none, c :: s)
  | [] => some (none, [])

/-- A number that has neither a fraction nor an exponent and fits 64 bits. -/
def wholeNumber (negative : Bool) (value : Nat) : Number :=
  if !negative then .int value
  else if 0 < value ∧ value ≤ twoPow 63 then .int (-(value : Int))
  else .real (Binary64.ofNat value).neg

def readNumber (negative : Bool) (s : List Char) : Option (Number × List Char) := do
  let (whole, s) ← readWhole s
  let (fraction, s) ← readFraction s
  let (exponent, s) ← readExponent s
  let c := whole.foldl (fun c d => c.whole (Text.decimalDigit d)) Coefficient.start
  if fraction.isEmpty && exponent.isNone && !c.full then
    return (wholeNumber negative c.value, s)
  else
    let c := fraction.foldl (fun c d => c.fraction (Text.decimalDigit d)) { c with full := false }
    let x ← Binary64.ofCoefficient? negative { c with exponent := c.exponent + exponent.getD 0 }
    return (.real x, s)

/-- The rest of an array after its first element. -/
def readItems (item : Reading Json) (done : List Json) : (fuel : Nat) → Reading (List Json)
  | 0, _ => none
  | fuel + 1, s =>
    match skipSpace s with
    | ']' :: rest => some (done.reverse, rest)
    | ',' :: rest =>
      match item (skipSpace rest) with
      | some (x, rest) => readItems item (x :: done) fuel rest
      | none => none
    | _ => none

def readMember (item : Reading Json) (s : List Char) : Option ((String × Json) × List Char) :=
  match s with
  | '"' :: rest => do
    let (key, rest) ← readString [] none rest
    match skipSpace rest with
    | ':' :: rest =>
      let (x, rest) ← item (skipSpace rest)
      return ((key, x), rest)
    | _ => none
  | _ => none

/-- The rest of an object after its first member. -/
def readMembers (item : Reading Json) (done : Dict Json) : (fuel : Nat) → Reading (Dict Json)
  | 0, _ => none
  | fuel + 1, s =>
    match skipSpace s with
    | '\x7d' :: rest => some (done, rest)
    | ',' :: rest =>
      match readMember item (skipSpace rest) with
      | some ((key, x), rest) => readMembers item (done.put key x) fuel rest
      | none => none
    | _ => none

def readArray (item : Reading Json) (s : List Char) : Option (Json × List Char) := do
  match skipSpace s with
  | ']' :: rest => return (.array [], rest)
  | s =>
    let (x, rest) ← item s
    let (xs, rest) ← readItems item [x] (rest.length + 1) rest
    return (.array xs, rest)

def readObject (item : Reading Json) (s : List Char) : Option (Json × List Char) := do
  match skipSpace s with
  | '\x7d' :: rest => return (.object [], rest)
  | s =>
    let ((key, x), rest) ← readMember item s
    let (members, rest) ← readMembers item [(key, x)] (rest.length + 1) rest
    return (.object members, rest)

/-- A value at the front of the text, in which arrays and objects nest less than `depth` deep. -/
def readValue : (depth : Nat) → Reading Json
  | 0, _ => none
  | depth + 1, s =>
    match s with
    | 'n' :: 'u' :: 'l' :: 'l' :: rest => some (.null, rest)
    | 't' :: 'r' :: 'u' :: 'e' :: rest => some (.bool true, rest)
    | 'f' :: 'a' :: 'l' :: 's' :: 'e' :: rest => some (.bool false, rest)
    | '"' :: rest => (readString [] none rest).map fun (t, rest) => (.string t, rest)
    | '[' :: rest => if depth = 0 then none else readArray (readValue depth) rest
    | '\x7b' :: rest => if depth = 0 then none else readObject (readValue depth) rest
    | '-' :: rest => (readNumber true rest).map fun (n, rest) => (.number n, rest)
    | s => (readNumber false s).map fun (n, rest) => (.number n, rest)

/-- The value of a document that holds nothing else but white space. -/
def parse? (text : String) : Option Json := do
  let (value, rest) ← readValue 128 (skipSpace text.toList)
  if (skipSpace rest).isEmpty then some value else none

end TemplateQuery.Json
