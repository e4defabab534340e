import Mathlib.Computability.Language
import TemplateQuery.Proofs.Query.Reading

/-!
# Spellings of queries

The texts that stand for a query when every segment is written in brackets. Strings may be quoted and escaped in any way,
white space may stand between any two words, and parentheses stand exactly where the binding of the operators needs them.
A spelling is a language, and the language of a whole is put together from those of its parts.
-/
namespace TemplateQuery.Query

open Text (isBlank isHexDigit valueInBase decimalValue)

/-! ## Words -/

/-- White space, possibly none. -/
def blanks : Language Char := {b | ∀ c ∈ b, isBlank c = true}

/-- White space that keeps two words apart. -/
def gap : Language Char := {b | b ∈ blanks ∧ b ≠ []}

def word (w : List Char) : Language Char := {t | t = w}

theorem nil_mem_blanks : [] ∈ blanks := List.forall_mem_nil _

@[simp] theorem mem_word {w t : List Char} : t ∈ word w ↔ t = w := Iff.rfl

/-- Items with a comma between each two. -/
def commaSeparated : List (Language Char) → Language Char
  | [] => 1
  | [item] => item
  | item :: items => item * (blanks * (word [','] * (blanks * commaSeparated items)))

/-- A text between two characters. -/
def enclosed (opening closing : Char) (inside : Language Char) : Language Char :=
  word [opening] * (blanks * (inside * (blanks * word [closing])))

/-- An operator between its operands, with room on both of its sides. -/
def binary (room : Language Char) (sign : List Char) (left right : Language Char) : Language Char :=
  left * (room * (word sign * (room * right)))

theorem eq_of_mem_enclosed {opening closing : Char} {inside : Language Char} {t : List Char}
    (ht : t ∈ enclosed opening closing inside) :
    ∃ b ∈ blanks, ∃ u ∈ inside, ∃ b' ∈ blanks, t = opening :: (b ++ (u ++ (b' ++ [closing]))) := by
  simp only [enclosed, Language.mem_mul, mem_word] at ht
  obtain ⟨_, rfl, _, ⟨b, hb, _, ⟨u, hu, _, ⟨b', hb', _, rfl, rfl⟩, rfl⟩, rfl⟩, rfl⟩ := ht
  exact ⟨b, hb, u, hu, b', hb', rfl⟩

theorem eq_of_mem_binary {room left right : Language Char} {sign t : List Char} (ht : t ∈ binary room sign left right) :
    ∃ l ∈ left, ∃ b ∈ room, ∃ b' ∈ room, ∃ r ∈ right, t = l ++ (b ++ (sign ++ (b' ++ r))) := by
  simp only [binary, Language.mem_mul, mem_word] at ht
  obtain ⟨l, hl, _, ⟨b, hb, _, ⟨_, rfl, _, ⟨b', hb', r, hr, rfl⟩, rfl⟩, rfl⟩, rfl⟩ := ht
  exact ⟨l, hl, b, hb, b', hb', r, hr, rfl⟩

/-! ## Literals -/

/-- The letters of the short escapes, and what they stand for. -/
def shortEscapes : List (Char × Char) :=
  [('n', '\n'), ('t', '\t'), ('r', '\r'), ('b', '\x08'), ('f', '\x0c'), ('/', '/'), ('\\', '\\'), ('\'', '\''), ('"', '"')]

/-- A character between quotes stands for itself, or for it stands an escape. -/
inductive SpellsChar (quote c : Char) : List Char → Prop
  | plain (notQuote : c ≠ quote) (notEscape : c ≠ '\\') : SpellsChar quote c [c]
  | short (letter : Char) (listed : (letter, c) ∈ shortEscapes) : SpellsChar quote c ['\\', letter]
  | codePoint (digits : List Char) (four : digits.length = 4) (hex : ∀ d ∈ digits, isHexDigit d = true)
    (value : valueInBase 16 digits = c.toNat) : SpellsChar quote c ('\\' :: 'u' :: digits)

def encodedChar (quote c : Char) : Language Char := {t | SpellsChar quote c t}

/-- The characters of a string between quotes. -/
def encoded (quote : Char) : List Char → Language Char
  | [] => 1
  | c :: s => encodedChar quote c * encoded quote s

/-- A string in quotes of either kind. -/
def quoted (s : String) : Language Char :=
  {t | ∃ quote, (quote = '\'' ∨ quote = '"') ∧ t ∈ word [quote] * (encoded quote s.toList * word [quote])}

/-- Decimal digits for a natural number. -/
def decimal (n : Nat) : Language Char := {t | t ≠ [] ∧ (∀ c ∈ t, c.isDigit = true) ∧ decimalValue t = n}

/-- A whole number. -/
def numeral (i : Int) : Language Char :=
  {t | (∃ n : Nat, i = n ∧ t ∈ decimal n) ∨ ∃ n : Nat, i = -n ∧ t ∈ word ['-'] * decimal n}

/-- A literal that is not a list. The others have no spelling. -/
def scalarSpelling : Json → Language Char
  | .string s => quoted s
  | .number (.int i) => numeral i
  | .bool true => word "true".toList
  | .bool false => word "false".toList
  | .null => word "null".toList
  | _ => 0

def literalSpelling : Json → Language Char
  | .array items => enclosed '[' ']' (commaSeparated (items.map scalarSpelling))
  | value => scalarSpelling value

/-! ## Segments and expressions -/

def Root.mark : Root → Char
  | .document => '$'
  | .current => '@'
  | .extra => '_'

/-- What stands before the bracket of a segment. -/
def Segment.mark : Segment → List Char
  | .descend _ => ['.', '.']
  | _ => []

/-- The first bound of a slice and the white space up to the colon. -/
def startSpelling : Option Int → Language Char
  | some i => numeral i * blanks
  | none => 1

def stopSpelling : Option Int → Language Char
  | some i => numeral i
  | none => 1

/-- The last part of a slice, whose colon may be left out if no step is given. -/
def stepSpelling : Option Int → Language Char
  | some i => blanks * (word [':'] * (blanks * numeral i))
  | none => 1 + blanks * word [':']

def sliceSpelling (start stop step : Option Int) : Language Char :=
  startSpelling start * (word [':'] * (blanks * (stopSpelling stop * stepSpelling step)))

def Comparison.text : Comparison → List Char
  | .equal => ['=', '=']
  | .notEqual => ['!', '=']
  | .less => ['<']
  | .lessEqual => ['<', '=']
  | .greater => ['>']
  | .greaterEqual => ['>', '=']
  | .isIn => ['i', 'n']
  | .contains => ['c', 'o', 'n', 't', 'a', 'i', 'n', 's']

def Comparison.isWord : Comparison → Bool
  | .isIn | .contains => true
  | _ => false

/-- What must stand around a comparison at least. -/
def Comparison.around (op : Comparison) : Language Char := if op.isWord then gap else blanks

/-- How strongly the outermost operator binds: disjunction weakest, then conjunction, negation and comparison, while
anything else is an operand of all of them. -/
def Expr.strength : Expr → Nat
  | .or _ _ => 0
  | .and _ _ => 1
  | .not _ => 2
  | .compare _ _ _ => 3
  | _ => 4

/-- An expression where one of some strength is needed, in parentheses if it binds too weakly. -/
def Expr.atStrength (needed : Nat) (e : Expr) (bare : Language Char) : Language Char :=
  if needed ≤ e.strength then bare else enclosed '(' ')' bare

mutual

/-- What stands between the brackets of a segment. -/
def Segment.inside : Segment → Language Char
  | .child name => quoted name
  | .index position => numeral position
  | .wildcard => word ['*']
  | .descend selector => selector.inside
  | .slice start stop step => sliceSpelling start stop step
  | .union selectors => commaSeparated (insides selectors)
  | .filter test => word ['?'] * (blanks * test.spelling)
termination_by structural s => s

def insides : List Segment → List (Language Char)
  | [] => []
  | s :: segments => s.inside :: insides segments
termination_by structural segments => segments

def pathSpelling : List Segment → Language Char
  | [] => 1
  | s :: segments => blanks * (word s.mark * (enclosed '[' ']' s.inside * pathSpelling segments))
termination_by structural segments => segments

/-- An expression without parentheses around it. -/
def Expr.spelling : Expr → Language Char
  | .literal value => literalSpelling value
  | .path root segments => word [root.mark] * pathSpelling segments
  | .call name arguments =>
    word name.toList * (blanks * enclosed '(' ')' (commaSeparated (spellings arguments)))
  | .not operand => word ['!'] * (blanks * operand.atStrength 2 operand.spelling)
  | .and left right =>
    binary blanks ['&', '&'] (left.atStrength 1 left.spelling) (right.atStrength 2 right.spelling)
  | .or left right =>
    binary blanks ['|', '|'] (left.atStrength 0 left.spelling) (right.atStrength 1 right.spelling)
  | .compare left op right =>
    binary op.around op.text (left.atStrength 4 left.spelling) (right.atStrength 4 right.spelling)
termination_by structural e => e

def spellings : List Expr → List (Language Char)
  | [] => []
  | e :: exprs => e.spelling :: spellings exprs
termination_by structural exprs => exprs

end

/-- The texts that stand for a query. -/
def querySpelling (segments : List Segment) : Language Char :=
  blanks * (word ['$'] * (pathSpelling segments * blanks))

theorem insides_eq_map (segments : List Segment) : insides segments = segments.map Segment.inside := by
  induction segments with
  | nil => rfl
  | cons s segments ih => rw [insides, ih, List.map_cons]

theorem spellings_eq_map (exprs : List Expr) : spellings exprs = exprs.map Expr.spelling := by
  induction exprs with
  | nil => rfl
  | cons e exprs ih => rw [spellings, ih, List.map_cons]

/-! ## Queries that can be spelled -/

/-- A literal that is not a list and can be written in a query. -/
def IsScalar : Json → Prop
  | .string _ | .bool _ | .null => True
  | .number (.int i) => fitsInt64 i = true
  | _ => False

def IsLiteral : Json → Prop
  | .array items => ∀ item ∈ items, IsScalar item
  | value => IsScalar value

/-- A name that an expression can start with: the mark of the extra value is none. -/
structure IsWord (name : String) : Prop where
  first : ∃ c rest, name.toList = c :: rest ∧ (Text.isAlphabetic c = true ∨ c = '_')
  chars : ∀ c ∈ name.toList, isNameChar c = true
  notExtra : name ≠ "_"

/-- The names that calls can have: the constants are none. -/
structure IsFunctionName (name : String) : Prop extends IsWord name where
  notConstant : name ∉ ["true", "false", "null"]

/-- Positions fit 64 bits. -/
def Segment.Fits : Segment → Prop
  | .index position => fitsInt64 position = true
  | .slice start stop step => ∀ bound ∈ [start, stop, step], ∀ i ∈ bound, fitsInt64 i = true
  | _ => True

def Expr.Writable (functions : FunctionTable) : Expr → Prop
  | .literal value => IsLiteral value
  | .call name _ => functions.knows name = true ∧ IsFunctionName name
  | _ => True

/-- Queries over a function table that have spellings. -/
def FunctionTable.writable (functions : FunctionTable) : Rules :=
  ⟨fun s => s.WellShaped ∧ s.Fits, Expr.Writable functions⟩

end TemplateQuery.Query
