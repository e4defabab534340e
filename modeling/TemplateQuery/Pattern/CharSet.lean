import TemplateQuery.Pattern.Fold

/-!
# Character sets of patterns

A set is built from ranges by complement, union and intersection. A set may be closed under case: then it
holds a character as soon as it holds one that folds to the same. The tables of Unicode properties list sets
by name; names are written as they are compared, in lower case and without spaces and marks.
-/
namespace TemplateQuery.Pattern

open Text (CharRanges)

/-- Which characters count as two cases of one. -/
inductive CaseRule where
  | ascii
  | full
deriving DecidableEq, Inhabited

def CaseRule.variants : CaseRule → Char → List Char
  | .ascii, c => [c.toLower, c.toUpper]
  | .full, c => foldClass c

inductive CharSet where
  | ranges (members : CharRanges)
  | complement (set : CharSet)
  | union (left right : CharSet)
  | inter (left right : CharSet)
  /-- The characters in just one of the two sets. -/
  | exclusive (left right : CharSet)
  /-- The characters of which some variant is in the set. -/
  | folded (rule : CaseRule) (set : CharSet)
deriving Inhabited

namespace CharSet

def contains : CharSet → Char → Bool
  | .ranges members, c => members.contains c
  | .complement s, c => !s.contains c
  | .union a b, c => a.contains c || b.contains c
  | .inter a b, c => a.contains c && b.contains c
  | .exclusive a b, c => a.contains c != b.contains c
  | .folded rule s, c => (rule.variants c).any s.contains

def empty : CharSet := .ranges []

def ofText (text : String) : CharSet := .ranges (CharRanges.ofText text)

def range (first last : Char) : CharSet := .ranges [⟨first.toNat, last.toNat, 1⟩]

def single (c : Char) : CharSet := range c c

def unionAll (sets : List CharSet) : CharSet := sets.foldr .union empty

def difference (a b : CharSet) : CharSet := .inter a (.complement b)

def complementIf (negated : Bool) (s : CharSet) : CharSet := if negated then .complement s else s

def foldedBy (rule : Option CaseRule) (s : CharSet) : CharSet :=
  match rule with
  | some rule => .folded rule s
  | none => s

end CharSet

/-! ## Sets with names -/

/-- The ranges of a set, as text, and every name that the set goes by. -/
structure NamedSet where
  names : List String
  ranges : String

namespace NamedSet

def set (s : NamedSet) : CharSet := .ofText s.ranges

/-- The set of a table that goes by a name. -/
def find? (table : List NamedSet) (name : String) : Option CharSet :=
  (table.find? fun s => s.names.contains name).map set

end NamedSet

end TemplateQuery.Pattern
