import TemplateQuery.Template.Error
import TemplateQuery.Text.Basic
import TemplateQuery.Text.Letter

/-!
# Cutting expressions into tokens

A token is the longest one that starts at the next character that is not white space. Words start with a letter
or an underscore; a minus sign starts a number if a digit follows it; strings have no escapes.
-/
namespace TemplateQuery.Template

open Text (isBlank skipBlank decimalValue)

abbrev Checked (α : Type) := Except Malformation α

def startsWord (c : Char) : Bool := Text.isAlphabetic c || c = '_'

def continuesWord (c : Char) : Bool := Text.isAlphanumeric c || c = '_' || c = '-' || c = '?'

def mark? (c : Char) : Option Token :=
  match c with
  | '.' => some .dot
  | '[' => some .openBracket
  | ']' => some .closeBracket
  | '|' => some .pipe
  | ':' => some .colon
  | ',' => some .comma
  | _ => none

/-- The rest of a string after its opening quote. -/
def readString (quote : Char) (s : List Char) : Checked (Token × List Char) :=
  match s.dropWhile (· != quote) with
  | [] => .error .unterminatedString
  | _ :: rest => .ok (.string (String.ofList (s.takeWhile (· != quote))), rest)

def signed (negative : Bool) (n : Nat) : Int := if negative then -(n : Int) else n

/-- A whole number, which has to fit 64 bits. -/
def intToken (negative : Bool) (digits : List Char) : Checked Token :=
  let i := signed negative (decimalValue digits)
  if fitsInt64 i then .ok (.int i)
  else .error (.number (String.ofList (if negative then '-' :: digits else digits)))

def floatToken (negative : Bool) (digits fraction : List Char) : Token :=
  .float (Binary64.ofDecimal negative (decimalValue (digits ++ fraction)) (-(fraction.length : Int)))

/-- A number after its sign. A point belongs to it if a digit follows. -/
def readNumber (negative : Bool) (s : List Char) : Checked (Token × List Char) :=
  let digits := s.takeWhile Char.isDigit
  match s.dropWhile Char.isDigit with
  | '.' :: rest =>
    match rest.takeWhile Char.isDigit with
    | [] => do
      let t ← intToken negative digits
      return (t, '.' :: rest)
    | fraction => .ok (floatToken negative digits fraction, rest.dropWhile Char.isDigit)
  | rest => do
    let t ← intToken negative digits
    return (t, rest)

def startsWithDigit : List Char → Bool
  | c :: _ => c.isDigit
  | [] => false

/-- The token that starts with `c`, and what follows it. -/
def readToken (c : Char) (rest : List Char) : Checked (Token × List Char) :=
  match mark? c with
  | some t => .ok (t, rest)
  | none =>
    if c = '\'' ∨ c = '"' then readString c rest
    else if c.isDigit then readNumber false (c :: rest)
    else if c = '-' ∧ startsWithDigit rest then readNumber true rest
    else if startsWord c then
      .ok (.word (String.ofList ((c :: rest).takeWhile continuesWord)), (c :: rest).dropWhile continuesWord)
    else .error (.strayChar c)

/-- At most `fuel` tokens; each of them takes a character at least. -/
def tokensWithin : (fuel : Nat) → List Char → Checked (List Token)
  | 0, _ => .ok []
  | fuel + 1, s =>
    match skipBlank s with
    | [] => .ok []
    | c :: rest => do
      let (t, rest) ← readToken c rest
      let ts ← tokensWithin fuel rest
      return t :: ts

def tokens (source : String) : Checked (List Token) :=
  tokensWithin source.toList.length source.toList

end TemplateQuery.Template
