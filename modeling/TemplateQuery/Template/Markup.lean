import TemplateQuery.Template.Error
import TemplateQuery.Text.Basic

/-!
# Markup

A template is text with output statements and tags in it. An opening is closed by the first matching closing after
it. A hyphen next to an opening or a closing trims the white space of the text on that side, and text that is
empty is left out. Lines are counted from one.
-/
namespace TemplateQuery.Template

open Text (isBlank skipBlank trimEnd trim)

inductive Markup where
  | text (content : String)
  | output (source : String) (line : Nat)
  | tag (name header : String) (line : Nat)
deriving DecidableEq, Inhabited

inductive Opening where
  | output
  | tag
deriving DecidableEq, Inhabited

def Opening.text : Opening → String
  | .output => "\x7b\x7b"
  | .tag => "\x7b%"

/-- The first character of the closing; the second one is a brace. -/
def Opening.closing : Opening → Char
  | .output => '\x7d'
  | .tag => '%'

/-- The text before the first opening, that opening, and what follows it. -/
def splitAtOpening : List Char → Option (List Char × Opening × List Char)
  | '\x7b' :: '\x7b' :: rest => some ([], .output, rest)
  | '\x7b' :: '%' :: rest => some ([], .tag, rest)
  | c :: rest =>
    match splitAtOpening rest with
    | some (before, opening, after) => some (c :: before, opening, after)
    | none => none
  | [] => none

/-- The text before the first closing, and what follows it. -/
def splitAtClosing (first : Char) : List Char → Option (List Char × List Char)
  | c :: d :: rest =>
    if c = first ∧ d = '\x7d' then some ([], rest)
    else match splitAtClosing first (d :: rest) with
      | some (inner, after) => some (c :: inner, after)
      | none => none
  | _ => none

def newlines (s : List Char) : Nat := s.count '\n'

/-- A text as markup, trimmed on the sides that ask for it. -/
def textMarkup (trimsStart trimsEnd : Bool) (s : List Char) : List Markup :=
  let s := if trimsStart then skipBlank s else s
  let s := if trimsEnd then trimEnd s else s
  if s.isEmpty then [] else [.text (String.ofList s)]

/-- The inside of markup: whether hyphens trim the text before and after it, and its trimmed source. -/
structure Inner where
  trimsBefore : Bool
  trimsAfter : Bool
  source : List Char

def startsWithHyphen : List Char → Bool
  | '-' :: _ => true
  | _ => false

/-- A hyphen that stands alone trims before. -/
def Inner.ofText (s : List Char) : Inner :=
  let before := startsWithHyphen s
  let s := if before then s.drop 1 else s
  let after := s.getLast? = some '-'
  let s := if after then s.dropLast else s
  ⟨before, after, trim s⟩

/-- An output statement, or a tag whose name ends at the first white space. -/
def Opening.markup (opening : Opening) (source : List Char) (line : Nat) : Except Error Markup :=
  match opening with
  | .output => .ok (.output (String.ofList source) line)
  | .tag =>
    match source.takeWhile (!isBlank ·) with
    | [] => .error (.unbalanced .emptyTag line)
    | name => .ok (.tag (String.ofList name)
        (String.ofList (trim ((source.dropWhile (!isBlank ·)).drop 1))) line)

/-- The markup of a text that starts on a line, where the markup before it may trim its start. -/
def scanFrom : (fuel : Nat) → (trimsStart : Bool) → (line : Nat) → List Char → Except Error (List Markup)
  | 0, _, _, _ => .ok []
  | fuel + 1, trimsStart, line, s =>
    match splitAtOpening s with
    | none => .ok (textMarkup trimsStart false s)
    | some (before, opening, rest) =>
      let line := line + newlines before
      match splitAtClosing opening.closing rest with
      | none => .error (.unbalanced (.unclosed opening.text) line)
      | some (inside, rest) => do
        let inner := Inner.ofText inside
        let m ← opening.markup inner.source line
        let ms ← scanFrom fuel inner.trimsAfter (line + newlines inside) rest
        return textMarkup trimsStart inner.trimsBefore before ++ m :: ms

/-- The markup of a whole template. -/
def scan (source : String) : Except Error (List Markup) :=
  scanFrom (source.toList.length + 1) false 1 source.toList

end TemplateQuery.Template
