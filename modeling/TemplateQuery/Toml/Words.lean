import TemplateQuery.Json.Basic
import TemplateQuery.Text.Basic

/-!
# The words of a TOML document

Readers for keys, strings, numbers and dates. Values are given as JSON data: numbers that are not finite become
null, and a date or time becomes an object with one member that holds its normal form.
-/
namespace TemplateQuery.Toml

open Text (hexDigit? isHexDigit decimalValue valueInBase scalar?)

abbrev Reading (α : Type) := List Char → Option (α × List Char)

def isSpace (c : Char) : Bool := c = ' ' || c = '\t'

def skipSpace : List Char → List Char
  | [] => []
  | c :: rest => if isSpace c then skipSpace rest else c :: rest

/-- Characters that may stand in a comment or a string: no control character but the tab. -/
def isPlain (c : Char) : Bool := c = '\t' || (0x20 ≤ c.toNat && c.toNat != 0x7F)

/-- What follows a line break at the front. -/
def afterNewline? : List Char → Option (List Char)
  | '\n' :: rest => some rest
  | '\r' :: '\n' :: rest => some rest
  | _ => none

/-- What follows a comment, if one is there. -/
def skipComment : List Char → List Char
  | '#' :: rest => rest.dropWhile isPlain
  | s => s

/-- What follows the end of a line, where a comment may come first. -/
def afterLine? (s : List Char) : Option (List Char) :=
  match skipComment (skipSpace s) with
  | [] => some []
  | s => afterNewline? s

/-- White space, line breaks and comments, as they may stand inside an array. -/
def skipLines : (fuel : Nat) → List Char → List Char
  | 0, s => s
  | fuel + 1, s =>
    match skipComment (skipSpace s) with
    | '\n' :: rest => skipLines fuel rest
    | '\r' :: '\n' :: rest => skipLines fuel rest
    | s => s

/-! ## Strings -/

/-- The number of a fixed count of hexadecimal digits. -/
def readHex (value : Nat) : (count : Nat) → Reading Nat
  | 0, s => some (value, s)
  | count + 1, c :: rest =>
    match hexDigit? c with
    | some d => readHex (value * 16 + d) count rest
    | none => none
  | _ + 1, [] => none

def readScalar (count : Nat) (s : List Char) : Option (Char × List Char) := do
  let (n, rest) ← readHex 0 count s
  let c ← scalar? n
  return (c, rest)

/-- The character that an escape after its backslash stands for. -/
def readEscape : Reading Char
  | 'b' :: rest => some ('\x08', rest)
  | 't' :: rest => some ('\t', rest)
  | 'n' :: rest => some ('\n', rest)
  | 'f' :: rest => some ('\x0c', rest)
  | 'r' :: rest => some ('\r', rest)
  | '"' :: rest => some ('"', rest)
  | '\\' :: rest => some ('\\', rest)
  | 'u' :: rest => readScalar 4 rest
  | 'U' :: rest => readScalar 8 rest
  | _ => none

/-- The rest of a basic string after its quote; `done` holds what came before, last first. -/
def readBasic (done : List Char) : (fuel : Nat) → Reading String
  | 0, _ => none
  | fuel + 1, s =>
    match s with
    | '"' :: rest => some (String.ofList done.reverse, rest)
    | '\\' :: rest =>
      match readEscape rest with
      | some (c, rest) => readBasic (c :: done) fuel rest
      | none => none
    | c :: rest => if isPlain c then readBasic (c :: done) fuel rest else none
    | [] => none

/-- The rest of a literal string after its quote. -/
def readLiteral (s : List Char) : Option (String × List Char) :=
  match s.dropWhile (· != '\'') with
  | '\'' :: rest =>
    let inside := s.takeWhile (· != '\'')
    if inside.all isPlain then some (String.ofList inside, rest) else none
  | _ => none

/-- What follows an escaped line break after its backslash, white space and further breaks included. -/
def afterEscapedBreak? (s : List Char) : Option (List Char) := do
  let rest ← afterNewline? (skipSpace s)
  return skipBreaks rest.length rest
where
  skipBreaks : Nat → List Char → List Char
    | 0, s => s
    | fuel + 1, s =>
      match skipSpace s with
      | '\n' :: rest => skipBreaks fuel rest
      | '\r' :: '\n' :: rest => skipBreaks fuel rest
      | s => s

/--
The rest of a string over several lines. A run of quotes closes it with its last three, up to two before them belong
to it, and a shorter run is part of it. Line breaks become line feeds.
-/
def readLines (quote : Char) (done : List Char) : (fuel : Nat) → Reading String
  | 0, _ => none
  | fuel + 1, s =>
    match s with
    | [] => none
    | '\n' :: rest => readLines quote ('\n' :: done) fuel rest
    | '\r' :: '\n' :: rest => readLines quote ('\n' :: done) fuel rest
    | c :: rest =>
      if c = quote then
        let run := (c :: rest).takeWhile (· == quote)
        if 3 ≤ run.length then
          let inside := min (run.length - 3) 2
          some (String.ofList (done.reverse ++ List.replicate inside quote), (c :: rest).drop (inside + 3))
        else readLines quote (run ++ done) fuel ((c :: rest).drop run.length)
      else if c = '\\' ∧ quote = '"' then
        match afterEscapedBreak? rest with
        | some rest => readLines quote done fuel rest
        | none =>
          match readEscape rest with
          | some (c, rest) => readLines quote (c :: done) fuel rest
          | none => none
      else if isPlain c then readLines quote (c :: done) fuel rest
      else none

/-- The text after three quotes, without a line break that comes first. -/
def firstLine (s : List Char) : List Char := (afterNewline? s).getD s

def readString : Reading String
  | '"' :: '"' :: '"' :: rest => readLines '"' [] (rest.length + 1) (firstLine rest)
  | '\'' :: '\'' :: '\'' :: rest => readLines '\'' [] (rest.length + 1) (firstLine rest)
  | '"' :: rest => readBasic [] (rest.length + 1) rest
  | '\'' :: rest => readLiteral rest
  | _ => none

/-! ## Keys -/

def isBareKeyChar (c : Char) : Bool := c.isAlphanum || c = '_' || c = '-'

def readKeyPart (s : List Char) : Option (String × List Char) :=
  match s with
  | '"' :: rest => readBasic [] (rest.length + 1) rest
  | '\'' :: rest => readLiteral rest
  | s =>
    match s.takeWhile isBareKeyChar with
    | [] => none
    | key => some (String.ofList key, s.dropWhile isBareKeyChar)

/-- The parts of a dotted key, with white space around each. -/
def readKeyParts : (fuel : Nat) → Reading (List String)
  | 0, _ => none
  | fuel + 1, s => do
    let (key, rest) ← readKeyPart (skipSpace s)
    match skipSpace rest with
    | '.' :: rest =>
      let (keys, rest) ← readKeyParts fuel rest
      return (key :: keys, rest)
    | rest => return ([key], rest)

/-- A dotted key, of less than 80 parts. -/
def readKey (s : List Char) : Option (List String × List Char) := do
  let (keys, rest) ← readKeyParts (s.length + 1) s
  if keys.length < 80 then some (keys, rest) else none

/-! ## Numbers -/

/-- Digits with single underscores between them; `isFirst` says that one must come next. -/
def takeDigits (isDigit : Char → Bool) : List Char → List Char × List Char
  | '_' :: c :: rest =>
    if isDigit c then
      let (digits, rest) := takeDigits isDigit rest
      (c :: digits, rest)
    else ([], '_' :: c :: rest)
  | c :: rest =>
    if isDigit c then
      let (digits, rest) := takeDigits isDigit rest
      (c :: digits, rest)
    else ([], c :: rest)
  | [] => ([], [])

/-- At least one digit, and further ones that underscores may separate. -/
def readDigits (isDigit : Char → Bool) : Reading (List Char)
  | c :: rest =>
    if isDigit c then
      let (digits, rest) := takeDigits isDigit rest
      some (c :: digits, rest)
    else none
  | [] => none

/-- The whole part of a number, where a leading zero stands alone. -/
def readWhole : Reading (List Char)
  | '0' :: rest => some (['0'], rest)
  | s => readDigits Char.isDigit s

def intValue (i : Int) (rest : List Char) : Option (Json × List Char) :=
  if fitsInt64 i then some (.ofInt i, rest) else none

def readBased (base : Nat) (isDigit : Char → Bool) (s : List Char) : Option (Json × List Char) := do
  let (digits, rest) ← readDigits isDigit s
  intValue (valueInBase base digits) rest

def readSign : List Char → Bool × List Char
  | '-' :: rest => (true, rest)
  | '+' :: rest => (false, rest)
  | s => (false, s)

def readExponent (s : List Char) : Option (Int × List Char) := do
  let (negative, s) := readSign s
  let (digits, rest) ← readDigits Char.isDigit s
  let n : Int := decimalValue digits
  return (if negative then -n else n, rest)

/-- A float of the given parts. One too large for the format is refused, a negative one has no JSON form. -/
def floatValue (negative : Bool) (digits fraction : List Char) (exponent : Int) (rest : List Char) :
    Option (Json × List Char) :=
  let x := Binary64.ofDecimal negative (decimalValue (digits ++ fraction)) (exponent - fraction.length)
  if !negative && !x.isFinite then none else some (.ofBinary64 x, rest)

def startsExponent : List Char → Bool
  | c :: _ => c = 'e' || c = 'E'
  | [] => false

def readDecimal (s : List Char) : Option (Json × List Char) := do
  let (negative, s) := readSign s
  let (digits, rest) ← readWhole s
  match rest with
  | '.' :: rest =>
    let (fraction, rest) ← readDigits Char.isDigit rest
    if startsExponent rest then
      let (e, rest) ← readExponent (rest.drop 1)
      floatValue negative digits fraction e rest
    else floatValue negative digits fraction 0 rest
  | rest =>
    if startsExponent rest then
      let (e, rest) ← readExponent (rest.drop 1)
      floatValue negative digits [] e rest
    else
      let n : Int := decimalValue digits
      intValue (if negative then -n else n) rest

def readNumber (s : List Char) : Option (Json × List Char) :=
  match s with
  | '0' :: 'x' :: rest => readBased 16 isHexDigit rest
  | '0' :: 'o' :: rest => readBased 8 (fun c => '0' ≤ c && c ≤ '7') rest
  | '0' :: 'b' :: rest => readBased 2 (fun c => c = '0' || c = '1') rest
  | s =>
    match (readSign s).2 with
    | 'i' :: 'n' :: 'f' :: rest => some (.null, rest)
    | 'n' :: 'a' :: 'n' :: rest => some (.null, rest)
    | _ => readDecimal s

/-! ## Dates and times -/

/-- A number of a fixed count of decimal digits, within bounds. -/
def readFixed (count low high : Nat) (s : List Char) : Option (Nat × List Char) :=
  let digits := s.take count
  let n := decimalValue digits
  if digits.length = count ∧ digits.all Char.isDigit ∧ low ≤ n ∧ n ≤ high then some (n, s.drop count) else none

def padded (width n : Nat) : List Char :=
  let digits := Nat.toDigits 10 n
  List.replicate (width - digits.length) '0' ++ digits

def isLeapYear (y : Nat) : Bool := y % 4 = 0 && (y % 100 != 0 || y % 400 = 0)

def daysInMonth (year month : Nat) : Nat :=
  if month = 2 then (if isLeapYear year then 29 else 28)
  else if month = 4 ∨ month = 6 ∨ month = 9 ∨ month = 11 then 30
  else 31

def after? (c : Char) : List Char → Option (List Char)
  | d :: rest => if d = c then some rest else none
  | [] => none

def readDate (s : List Char) : Option (List Char × List Char) := do
  let (year, s) ← readFixed 4 0 9999 s
  let s ← after? '-' s
  let (month, s) ← readFixed 2 1 12 s
  let s ← after? '-' s
  let (day, s) ← readFixed 2 1 (daysInMonth year month) s
  return (padded 4 year ++ '-' :: padded 2 month ++ '-' :: padded 2 day, s)

/-- A fraction of a second: nine digits count, and zeros at the end are left out. -/
def readSecondFraction (s : List Char) : Option (List Char × List Char) :=
  match s with
  | '.' :: rest =>
    match rest.takeWhile Char.isDigit with
    | [] => none
    | digits =>
      let kept := ((digits.take 9).reverse.dropWhile (· == '0')).reverse
      some (if kept.isEmpty then [] else '.' :: kept, rest.dropWhile Char.isDigit)
  | s => some ([], s)

def readTime (s : List Char) : Option (List Char × List Char) := do
  let (hour, s) ← readFixed 2 0 23 s
  let s ← after? ':' s
  let (minute, s) ← readFixed 2 0 59 s
  let s ← after? ':' s
  let (second, s) ← readFixed 2 0 60 s
  let (fraction, s) ← readSecondFraction s
  return (padded 2 hour ++ ':' :: padded 2 minute ++ ':' :: padded 2 second ++ fraction, s)

/-- The distance from universal time, if one is given. -/
def readOffset (s : List Char) : Option (List Char × List Char) :=
  match s with
  | c :: rest =>
    if c = 'Z' ∨ c = 'z' then some (['Z'], rest)
    else if c = '+' ∨ c = '-' then do
      let (hour, s) ← readFixed 2 0 23 rest
      let s ← after? ':' s
      let (minute, s) ← readFixed 2 0 59 s
      let sign := if hour = 0 ∧ minute = 0 then '+' else c
      return (sign :: padded 2 hour ++ ':' :: padded 2 minute, s)
    else some ([], s)
  | [] => some ([], [])

def isTimeMark (c : Char) : Bool := c = 'T' || c = 't' || c = ' '

/-- The time after a date, if there is one. -/
def readTimeAfterDate (s : List Char) : Option (List Char × List Char) := do
  match s with
  | c :: rest =>
    if isTimeMark c then
      let (time, rest) ← readTime rest
      let (offset, rest) ← readOffset rest
      return ('T' :: time ++ offset, rest)
    else none
  | [] => none

/-- The name of the member that holds a date or time. -/
def dateMember : String := "$__toml_private_datetime"

def dateValue (text : List Char) : Json := .object [(dateMember, .string (String.ofList text))]

def readDateTime (s : List Char) : Option (Json × List Char) :=
  match readDate s with
  | some (date, rest) =>
    match readTimeAfterDate rest with
    | some (time, rest) => some (dateValue (date ++ time), rest)
    | none => some (dateValue date, rest)
  | none => (readTime s).map fun (time, rest) => (dateValue time, rest)

end TemplateQuery.Toml
