import TemplateQuery.Json.Basic
import TemplateQuery.Number.FloatText
import TemplateQuery.Text.Basic

/-!
# Writing JSON

Two forms of text: compact, without any space, and indented by two spaces a level. Both write
numbers and strings alike. In a string the quote, the backslash and the control characters below
the space are escaped and nothing else.
-/
namespace TemplateQuery

def Number.text : Number → String
  | .int i => toString i
  | .real x => FloatLayout.document.text x

namespace Json

def escapeChar (c : Char) : List Char :=
  if c = '"' then ['\\', '"']
  else if c = '\\' then ['\\', '\\']
  else if c = '\x08' then ['\\', 'b']
  else if c = '\t' then ['\\', 't']
  else if c = '\n' then ['\\', 'n']
  else if c = '\x0c' then ['\\', 'f']
  else if c = '\r' then ['\\', 'r']
  else if c.toNat < 0x20 then '\\' :: 'u' :: Text.hex4 c.toNat
  else [c]

/-- The text as a JSON string, quotes included. -/
def quote (s : String) : String :=
  String.ofList ('"' :: (s.toList.flatMap escapeChar ++ ['"']))

mutual

def compact : Json → String
  | .null => "null"
  | .bool b => if b then "true" else "false"
  | .number n => n.text
  | .string s => quote s
  | .array items => "[" ++ compactItems items ++ "]"
  | .object members => "\x7b" ++ compactMembers members ++ "\x7d"
termination_by structural x => x

def compactItems : List Json → String
  | [] => ""
  | [x] => compact x
  | x :: rest => compact x ++ "," ++ compactItems rest
termination_by structural x => x

def compactMembers : List (String × Json) → String
  | [] => ""
  | [(key, x)] => quote key ++ ":" ++ compact x
  | (key, x) :: rest => quote key ++ ":" ++ compact x ++ "," ++ compactMembers rest
termination_by structural x => x

end

/-- A new line indented to a level. -/
def newline (level : Nat) : String := String.ofList ('\n' :: List.replicate (2 * level) ' ')

mutual

/-- The indented form of a value that stands at a level. -/
def indented (level : Nat) : Json → String
  | .array [] => "[]"
  | .array items => "[" ++ indentedItems (level + 1) items ++ newline level ++ "]"
  | .object [] => "\x7b\x7d"
  | .object members => "\x7b" ++ indentedMembers (level + 1) members ++ newline level ++ "\x7d"
  | .null => "null"
  | .bool b => if b then "true" else "false"
  | .number n => n.text
  | .string s => quote s
termination_by structural x => x

def indentedItems (level : Nat) : List Json → String
  | [] => ""
  | [x] => newline level ++ indented level x
  | x :: rest => newline level ++ indented level x ++ "," ++ indentedItems level rest
termination_by structural x => x

def indentedMembers (level : Nat) : List (String × Json) → String
  | [] => ""
  | [(key, x)] => newline level ++ quote key ++ ": " ++ indented level x
  | (key, x) :: rest =>
    newline level ++ quote key ++ ": " ++ indented level x ++ "," ++ indentedMembers level rest
termination_by structural x => x

end

def pretty (value : Json) : String := indented 0 value

end Json

end TemplateQuery
