import TemplateQuery.Pattern.Property.Age
import TemplateQuery.Pattern.Property.Binary
import TemplateQuery.Pattern.Property.Category
import TemplateQuery.Pattern.Property.GraphemeBreak
import TemplateQuery.Pattern.Property.Script
import TemplateQuery.Pattern.Property.ScriptExtension
import TemplateQuery.Pattern.Property.SentenceBreak
import TemplateQuery.Pattern.Property.WordBreak

/-!
# Named character sets

The sets that a pattern refers to by name: digits, white space and word characters, the bracketed ASCII
classes, and the properties of Unicode 16.0, with a value where the property takes one.
-/
namespace TemplateQuery.Pattern

def asciiDigits : CharSet := .ofText "30-39"

def asciiSpaces : CharSet := .ofText "9-D 20"

def asciiWords : CharSet := .ofText "30-39 41-5A 5F 61-7A"

def categorySet (name : String) : CharSet := (category? name).getD .empty

def digits : CharSet := categorySet "nd"

def spaces : CharSet := binarySet "whitespace"

/-- Letters, marks, decimal digits, connecting punctuation and the joiners. -/
def words : CharSet := .unionAll [binarySet "alphabetic", categorySet "m", digits, categorySet "pc",
  binarySet "joincontrol"]

def isAsciiWord (c : Char) : Bool := c.isAlphanum || c = '_'

def isWord (c : Char) : Bool := if c.toNat < 0x80 then isAsciiWord c else words.contains c

/-- The classes that are named between colons, in ASCII. -/
def asciiClass? (name : String) : Option CharSet :=
  (classes.find? fun entry => entry.1 = name).map fun entry => .ofText entry.2
where
  classes : List (String × String) := [
    ("alnum", "30-39 41-5A 61-7A"),
    ("alpha", "41-5A 61-7A"),
    ("ascii", "0-7F"),
    ("blank", "9 20"),
    ("cntrl", "0-1F 7F"),
    ("digit", "30-39"),
    ("graph", "21-7E"),
    ("lower", "61-7A"),
    ("print", "20-7E"),
    ("punct", "21-2F 3A-40 5B-60 7B-7E"),
    ("space", "9-D 20"),
    ("upper", "41-5A"),
    ("word", "30-39 41-5A 5F 61-7A"),
    ("xdigit", "30-39 41-46 61-66")]

/--
A name without what is not told apart in it: letter case, spaces, hyphens, underscores, characters beyond
ASCII and a leading `is`.
-/
def looseName (name : List Char) : String :=
  let lowered := name.map Char.toLower
  let stripped := match lowered with
    | 'i' :: 's' :: rest => rest
    | cs => cs
  let kept := stripped.filter fun c => c != ' ' && c != '_' && c != '-' && c.toNat < 0x80
  if stripped.length < lowered.length && kept = ['c'] then "isc" else String.ofList kept

def everything : CharSet := .complement .empty

/-- General categories, with the names for everything, for what is assigned and for ASCII. -/
def categoryNamed? (name : String) : Option CharSet :=
  if name = "any" then some everything
  else if name = "assigned" then some assignedSet
  else if name = "ascii" then some (.ofText "0-7F")
  else category? name

/-- Names that stand for a category although a property of that name exists. -/
def prefersCategory (name : String) : Bool := name = "cf" || name = "sc" || name = "lc"

/-- The set of a single name: a property, else a category, else a script. -/
def named? (name : List Char) : Option CharSet :=
  let name := looseName name
  (if prefersCategory name then none else binary? name) <|> categoryNamed? name <|> script? name

/-- The properties that take a value, by their names: how a value is looked up. -/
def valueLookups : List (List String × (String → Option CharSet)) := [
  (["age"], age?),
  (["gc", "generalcategory"], categoryNamed?),
  (["gcb", "graphemeclusterbreak"], graphemeBreak?),
  (["sb", "sentencebreak"], sentenceBreak?),
  (["sc", "script"], script?),
  (["scx", "scriptextensions"], scriptExtension?),
  (["wb", "wordbreak"], wordBreak?)]

/-- The set of a property with a given value. -/
def namedValue? (name value : List Char) : Option CharSet := do
  let (_, lookup) ← valueLookups.find? fun entry => entry.1.contains (looseName name)
  lookup (looseName value)

end TemplateQuery.Pattern
