import TemplateQuery.Text.Basic

/-!
# Sets of characters as ranges

Large character classes are written as text: code points in hexadecimal, `first-last` for a range and
`first-last/2` for every second one of a range, separated by white space.
-/
namespace TemplateQuery.Text

/-- The code points `first`, `first + step`, … up to `last`. -/
structure CharRange where
  first : Nat
  last : Nat
  step : Nat
deriving DecidableEq, Inhabited

abbrev CharRanges := List CharRange

def CharRange.contains (r : CharRange) (n : Nat) : Bool :=
  r.first ≤ n && n ≤ r.last && (n - r.first) % r.step == 0

def CharRanges.contains (rs : CharRanges) (c : Char) : Bool :=
  rs.any (CharRange.contains · c.toNat)

def hexNumber (digits : List Char) : Nat := valueInBase 16 digits

/-- One written range. -/
def CharRange.ofText (word : List Char) : CharRange :=
  let first := word.takeWhile (· != '-')
  match word.dropWhile (· != '-') with
  | [] => ⟨hexNumber first, hexNumber first, 1⟩
  | _ :: rest =>
    let step := if rest.contains '/' then 2 else 1
    ⟨hexNumber first, hexNumber (rest.takeWhile (· != '/')), step⟩

/-- The words of a text, in order; `word` is the one being read, last character first. -/
def words (word : List Char) : List Char → List (List Char)
  | [] => if word.isEmpty then [] else [word.reverse]
  | c :: rest =>
    if c = ' ' ∨ c = '\n' then
      if word.isEmpty then words [] rest else word.reverse :: words [] rest
    else words (c :: word) rest

/-- Reads a written set. -/
def CharRanges.ofText (text : String) : CharRanges := (words [] text.toList).map CharRange.ofText

end TemplateQuery.Text
