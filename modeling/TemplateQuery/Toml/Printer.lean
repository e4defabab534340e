import TemplateQuery.Json.Printer
import TemplateQuery.Toml.Words

/-!
# Writing TOML documents

A table is written with its values first and its tables after them, each under a header of its own. Tables that hold
nothing but tables need no header. Arrays of two or more elements take a line for each; a non-empty array of
objects becomes an array of tables. Null has no form, and neither does a whole number beyond 64 bits.
-/
namespace TemplateQuery.Toml

/-! ## Strings and keys -/

/-- What decides how a string is quoted. -/
structure Quoting where
  /-- The longest runs of single and of double quotes. -/
  singles : Nat
  doubles : Nat
  hasBackslash : Bool
  hasNewline : Bool
  /-- Whether some other control character needs an escape. -/
  hasControl : Bool

/-- The length of the longest run of a character, given the run that leads up to the text. -/
def longestRun (c : Char) : (run : Nat) → List Char → Nat
  | run, [] => run
  | run, d :: rest => if d = c then longestRun c (run + 1) rest else max run (longestRun c 0 rest)

def isControl (c : Char) : Bool := (c.toNat ≤ 0x1F && c != '\t' && c != '\n') || c.toNat = 0x7F

def Quoting.of (s : List Char) : Quoting where
  singles := longestRun '\'' 0 s
  doubles := longestRun '"' 0 s
  hasBackslash := s.contains '\\'
  hasNewline := s.contains '\n'
  hasControl := s.any isControl

/--
The text between double quotes. Up to `quotes` double quotes in a row may stand as they are; `run` counts those just
written.
-/
def escaped (quotes : Nat) (keepsNewlines : Bool) : (run : Nat) → List Char → List Char
  | _, [] => []
  | run, c :: rest =>
    if c = '"' then
      if run < quotes then c :: escaped quotes keepsNewlines (run + 1) rest
      else '\\' :: '"' :: escaped quotes keepsNewlines 0 rest
    else
      let shown :=
        if c = '\x08' then ['\\', 'b']
        else if c = '\t' then ['\\', 't']
        else if c = '\n' then (if keepsNewlines then ['\n'] else ['\\', 'n'])
        else if c = '\x0c' then ['\\', 'f']
        else if c = '\r' then ['\\', 'r']
        else if c = '\\' then ['\\', '\\']
        else if isControl c then '\\' :: 'u' :: (Text.hex4 c.toNat).map Char.toUpper
        else [c]
      shown ++ escaped quotes keepsNewlines 0 rest

def basic (s : List Char) : List Char := '"' :: (escaped 0 false 0 s ++ ['"'])

def literal (s : List Char) : List Char := '\'' :: (s ++ ['\''])

/-- Three quotes, and a line break after the opening ones if there is one inside. -/
def tripled (quote : Char) (hasNewline : Bool) (inside : List Char) : List Char :=
  List.replicate 3 quote ++ (if hasNewline then ['\n'] else []) ++ inside ++ List.replicate 3 quote

/-- The first of the plain forms that needs no escape, else one with escapes. -/
def quoteText (s : List Char) : List Char :=
  let q := Quoting.of s
  let multiline := tripled '"' q.hasNewline (escaped 2 true 0 s)
  if !q.hasControl && !q.hasBackslash && !q.hasNewline && q.doubles = 0 then basic s
  else if !q.hasControl && !q.hasNewline && q.singles = 0 then literal s
  else if !q.hasControl && !q.hasBackslash && q.doubles ≤ 2 then multiline
  else if !q.hasControl && q.singles ≤ 2 then tripled '\'' q.hasNewline s
  else if q.hasNewline then multiline
  else basic s

def keyText (key : String) : String :=
  let s := key.toList
  let q := Quoting.of s
  let needsEscape := q.hasControl || q.hasNewline
  if !s.isEmpty && s.all isBareKeyChar then key
  else if !needsEscape && !q.hasBackslash && q.doubles = 0 then String.ofList (basic s)
  else if !needsEscape && q.singles = 0 then String.ofList (literal s)
  else String.ofList (basic s)

/-! ## Values -/

/-- Positional notation, with a point in every number. -/
def floatLayout : FloatLayout := ⟨none, true, false⟩

def numberText : Number → String
  | .int i => toString i
  | .real x => floatLayout.text x

/-- Elements on lines of their own, or a single one without. -/
def arrayText (elements : List String) : String :=
  match elements with
  | [] => "[]"
  | [x] => "[" ++ x ++ "]"
  | xs => "[" ++ String.join (xs.map fun x => "\n    " ++ x ++ ",") ++ "\n]"

def inlineText (pairs : List String) : String :=
  if pairs.isEmpty then "\x7b\x7d" else "\x7b " ++ ", ".intercalate pairs ++ " \x7d"

mutual

/-- The text of a value on the right of a key. -/
def valueText : Json → String
  | .null => ""
  | .bool b => if b then "true" else "false"
  | .number n => numberText n
  | .string s => String.ofList (quoteText s.toList)
  | .array items => arrayText (valueTexts items)
  | .object members => inlineText (pairTexts members)
termination_by structural x => x

def valueTexts : List Json → List String
  | [] => []
  | x :: rest => valueText x :: valueTexts rest
termination_by structural x => x

def pairTexts : List (String × Json) → List String
  | [] => []
  | (key, x) :: rest => (keyText key ++ " = " ++ valueText x) :: pairTexts rest
termination_by structural x => x

end

mutual

/-- Whether a value has a form at all. -/
def representable : Json → Bool
  | .null => false
  | .number (.int i) => fitsInt64 i
  | .array items => allRepresentable items
  | .object members => membersRepresentable members
  | _ => true
termination_by structural x => x

def allRepresentable : List Json → Bool
  | [] => true
  | x :: rest => representable x && allRepresentable rest
termination_by structural x => x

def membersRepresentable : List (String × Json) → Bool
  | [] => true
  | (_, x) :: rest => representable x && membersRepresentable rest
termination_by structural x => x

end

/-! ## Tables -/

def isObject : Json → Bool
  | .object _ => true
  | _ => false

/-- Whether a member is written under a header and not as a value. -/
def isTable : Json → Bool
  | .object _ => true
  | .array (x :: rest) => isObject x && rest.all isObject
  | _ => false

/-- A header, without its brackets if there is none to write, and the lines below it. -/
structure Section where
  header : Option String
  lines : List String

/-- The lines of the members that are values. -/
def valueLines (members : List (String × Json)) : List String :=
  (members.filter fun m => !isTable m.2).map fun m => keyText m.1 ++ " = " ++ valueText m.2

def pathText (path : List String) : String := ".".intercalate (path.map keyText)

/-- The section of a table itself. One that is not empty but holds only tables has none. -/
def tableSection (path : List String) (members : List (String × Json)) : List Section :=
  let lines := valueLines members
  if lines.isEmpty && !members.isEmpty then [] else [⟨some ("[" ++ pathText path ++ "]"), lines⟩]

mutual

/-- The sections of a member at the end of a path. -/
def sectionsOf (path : List String) : Json → List Section
  | .object members => tableSection path members ++ sectionsOfMembers path members
  | .array items => if isTable (.array items) then sectionsOfElements path items else []
  | _ => []
termination_by structural x => x

def sectionsOfMembers (path : List String) : List (String × Json) → List Section
  | [] => []
  | (key, x) :: rest => sectionsOf (path ++ [key]) x ++ sectionsOfMembers path rest
termination_by structural x => x

/-- The sections of the elements of an array of tables. -/
def sectionsOfElements (path : List String) : List Json → List Section
  | [] => []
  | x :: rest => sectionsOfElement path x ++ sectionsOfElements path rest
termination_by structural x => x

def sectionsOfElement (path : List String) : Json → List Section
  | .object members =>
    ⟨some ("[[" ++ pathText path ++ "]]"), valueLines members⟩ :: sectionsOfMembers path members
  | _ => []
termination_by structural x => x

end

def Section.text (s : Section) : String :=
  String.join ((s.header.toList ++ s.lines).map fun line => line ++ "\n")

/-- The document of a table, if all its values have a form. -/
def render? (table : Dict Json) : Option String :=
  if membersRepresentable table then
    let top := valueLines table
    let sections := (if top.isEmpty then [] else [⟨none, top⟩]) ++ sectionsOfMembers [] table
    some ("\n".intercalate (sections.map Section.text))
  else none

end TemplateQuery.Toml
