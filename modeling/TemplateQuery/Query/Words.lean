import TemplateQuery.Query.Error
import TemplateQuery.Text.Basic
import TemplateQuery.Text.Letter

/-!
# The words of a query

Readers for the smallest parts of a query: single characters, names, keywords, quoted strings and
numbers. A reader takes the text that is left and gives back a value and what follows it. A fault
carries the text at which it was found, from which the position is counted at the end.
-/
namespace TemplateQuery.Query

inductive Fault where
  /-- Something else stands at the front of the rest, or nothing does. -/
  | expected (what : Expected) (rest : List Char)
  | malformed (cause : Malformation)
  | strayWord (word : String) (rest : List Char)
  | unknownFunction (name : String)

/-- The error of a fault in a text of the given length. -/
def Fault.toError (length : Nat) : Fault → Error
  | .expected what [] => .ended what
  | .expected what (c :: rest) => .unexpected (length - (c :: rest).length) c what
  | .malformed cause => .malformed cause
  | .strayWord word rest => .malformed (.strayWord word (length - rest.length))
  | .unknownFunction name => .unknownFunction name

abbrev Reading (α : Type) := List Char → Except Fault (α × List Char)

open Text (isBlank skipBlank hexDigit? decimalValue)

/-- What follows a character that must come next, white space apart. -/
def expectChar (c : Char) (s : List Char) : Except Fault (List Char) :=
  match skipBlank s with
  | d :: rest => if d = c then .ok rest else .error (.expected (.char c) (d :: rest))
  | [] => .error (.expected (.char c) [])

def isNameChar (c : Char) : Bool := Text.isAlphanumeric c || c = '_' || c = '-'

def startsWithNameChar : List Char → Bool
  | c :: _ => isNameChar c
  | [] => false

/-- The longest name at the front, white space apart. -/
def readName (s : List Char) : Except Fault (String × List Char) :=
  let s := skipBlank s
  match s.takeWhile isNameChar with
  | [] => .error (.expected .identifier s)
  | name => .ok (String.ofList name, s.dropWhile isNameChar)

/-- What follows a keyword that is not the start of a longer name. -/
def afterKeyword? (word s : List Char) : Option (List Char) :=
  if word.isPrefixOf s && !startsWithNameChar (s.drop word.length) then some (s.drop word.length)
  else none

/-- The character that four hexadecimal digits name. Surrogates are not characters. -/
def unicodeChar (a b c d : Char) : Except Fault Char :=
  match hexDigit? a, hexDigit? b, hexDigit? c, hexDigit? d with
  | some a, some b, some c, some d =>
    let n := ((a * 16 + b) * 16 + c) * 16 + d
    if 0xD800 ≤ n ∧ n ≤ 0xDFFF then .error (.malformed (.codePoint n)) else .ok (Char.ofNat n)
  | _, _, _, _ => .error (.malformed .unicodeEscape)

def shortEscape? (c : Char) : Option Char :=
  if c = 'n' then some '\n'
  else if c = 't' then some '\t'
  else if c = 'r' then some '\r'
  else if c = 'b' then some '\x08'
  else if c = 'f' then some '\x0c'
  else if c = '/' ∨ c = '\\' ∨ c = '\'' ∨ c = '"' then some c
  else none

/-- The characters up to the closing quote, escapes undone, and what follows that quote. -/
def readQuoted (quote : Char) : List Char → Except Fault (List Char × List Char)
  | [] => .error (.expected (.closingQuote quote) [])
  | c :: rest =>
    if c = quote then .ok ([], rest)
    else if c = '\\' then
      match rest with
      | [] => .error (.malformed .escape)
      | 'u' :: h₁ :: h₂ :: h₃ :: h₄ :: rest => do
        let x ← unicodeChar h₁ h₂ h₃ h₄
        let (xs, rest) ← readQuoted quote rest
        return (x :: xs, rest)
      | 'u' :: _ => .error (.malformed .unicodeEscape)
      | e :: rest =>
        match shortEscape? e with
        | none => .error (.malformed .escape)
        | some x => do
          let (xs, rest) ← readQuoted quote rest
          return (x :: xs, rest)
    else do
      let (xs, rest) ← readQuoted quote rest
      return (c :: xs, rest)

/-- A string in the quotes of which the first was just read. -/
def readString (quote : Char) (s : List Char) : Except Fault (String × List Char) := do
  let (xs, rest) ← readQuoted quote s
  return (String.ofList xs, rest)

/-- An optional minus sign and the digits after it. -/
structure Digits where
  negative : Bool
  digits : List Char

def Digits.text (d : Digits) : List Char := if d.negative then '-' :: d.digits else d.digits

def Digits.value (d : Digits) : Int :=
  if d.negative then -(decimalValue d.digits : Int) else decimalValue d.digits

def readDigits (s : List Char) : Except Fault (Digits × List Char) :=
  let (negative, s) := match s with
    | '-' :: rest => (true, rest)
    | s => (false, s)
  match s.takeWhile Char.isDigit with
  | [] => .error (.malformed .missingNumber)
  | digits => .ok (⟨negative, digits⟩, s.dropWhile Char.isDigit)

/-- The fault of a number that has no value here. -/
def invalidNumber (text : List Char) : Fault := .malformed (.number (String.ofList text))

/-- The value of a whole number that fits 64 bits. -/
def Digits.integer (d : Digits) : Except Fault Int :=
  if fitsInt64 d.value then .ok d.value else .error (invalidNumber d.text)

/-- An index or a bound of a slice. -/
def readInteger (s : List Char) : Except Fault (Int × List Char) := do
  let (d, rest) ← readDigits s
  let i ← d.integer
  return (i, rest)

/-- A point with at least one digit after it, or nothing. -/
def takeFraction : List Char → List Char × List Char
  | '.' :: s =>
    match s.takeWhile Char.isDigit with
    | [] => ([], '.' :: s)
    | digits => (digits, s.dropWhile Char.isDigit)
  | s => ([], s)

/-- The mark, sign and digits of an exponent; the digits may be missing. -/
structure ExponentText where
  sign : List Char
  digits : List Char

def ExponentText.text (e : ExponentText) : List Char := 'e' :: (e.sign ++ e.digits)

def ExponentText.value (e : ExponentText) : Int :=
  if e.sign = ['-'] then -(decimalValue e.digits : Int) else decimalValue e.digits

def takeExponent : List Char → Option ExponentText × List Char
  | c :: s =>
    if c = 'e' ∨ c = 'E' then
      let (sign, s) := match s with
        | '+' :: rest => (['+'], rest)
        | '-' :: rest => (['-'], rest)
        | s => ([], s)
      (some ⟨sign, s.takeWhile Char.isDigit⟩, s.dropWhile Char.isDigit)
    else (none, c :: s)
  | [] => (none, [])

/-- The number of the given parts: without fraction and exponent it is a whole one. -/
def numberOf (d : Digits) (fraction : List Char) (exponent : Option ExponentText) : Except Fault Number :=
  if fraction.isEmpty && exponent.isNone then d.integer.map .int
  else
    let text := d.text ++ (if fraction.isEmpty then [] else '.' :: fraction)
      ++ (exponent.map ExponentText.text).getD []
    let x := Binary64.ofDecimal d.negative (decimalValue (d.digits ++ fraction))
      ((exponent.map ExponentText.value).getD 0 - fraction.length)
    if (exponent.any fun e => e.digits.isEmpty) || !x.isFinite then .error (invalidNumber text)
    else .ok (.real x)

def readNumber (s : List Char) : Except Fault (Number × List Char) := do
  let (d, s) ← readDigits s
  let (fraction, s) := takeFraction s
  let (exponent, s) := takeExponent s
  let n ← numberOf d fraction exponent
  return (n, s)

end TemplateQuery.Query
