import TemplateQuery.Json.Printer

/-!
# Query errors

What can be wrong with the text of a query, and how the evaluation of one fails. Positions count
characters from the start of the text.
-/
namespace TemplateQuery.Query

/-- What the reader was looking for. -/
inductive Expected where
  | char (c : Char)
  | identifier
  | selector
  | literal
  | expression
  | closingQuote (quote : Char)
  | endOfQuery
deriving DecidableEq, Inhabited

def Expected.text : Expected → String
  | .char c => String.ofList ['\'', c, '\'']
  | .identifier => "identifier"
  | .selector => "a selector"
  | .literal => "a literal"
  | .expression => "filter expression"
  | .closingQuote q => "closing quote " ++ String.singleton q
  | .endOfQuery => "end of query"

inductive Malformation where
  | noRoot
  | escape
  | unicodeEscape
  /-- The digits of an escape name a surrogate. -/
  | codePoint (value : Nat)
  | missingNumber
  | number (text : String)
  | strayWord (word : String) (position : Nat)
deriving DecidableEq, Inhabited

def Malformation.text : Malformation → String
  | .noRoot => "JSONPath must start with '$'"
  | .escape => "invalid escape sequence"
  | .unicodeEscape => "invalid \\u escape"
  | .codePoint value => "invalid code point \\u" ++ String.ofList (Text.hex4 value)
  | .missingNumber => "expected number"
  | .number text => "invalid number: " ++ text
  | .strayWord word position => "unexpected word '" ++ word ++ "' at position " ++ toString position

inductive Error where
  | unexpected (position : Nat) (found : Char) (expected : Expected)
  | ended (expected : Expected)
  | malformed (cause : Malformation)
  | unknownFunction (name : String)
  /-- A function failed while the query was evaluated. -/
  | evaluation (message : String)
deriving DecidableEq, Inhabited

namespace Error

def message : Error → String
  | .unexpected position found expected =>
    "unexpected token '" ++ String.singleton found ++ "' at position " ++ toString position
      ++ ", expected " ++ expected.text
  | .ended expected => "unexpected end of input, expected " ++ expected.text
  | .malformed cause => "invalid JSONPath syntax: " ++ cause.text
  | .unknownFunction name => "unknown function `" ++ name ++ "`"
  | .evaluation message => message

/-- Whether the error is one of the text, found when the query is compiled. -/
def isOfText : Error → Bool
  | .evaluation _ => false
  | _ => true

end Error

end TemplateQuery.Query
