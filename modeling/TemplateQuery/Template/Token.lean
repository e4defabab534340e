import TemplateQuery.Number.FloatText
import TemplateQuery.Text.Listing

/-!
# Tokens of template expressions

The words, literals and marks that output statements and tag headers are made of. A message names a token
briefly; a listing shows its kind too.
-/
namespace TemplateQuery.Template

inductive Token where
  | word (text : String)
  | string (text : String)
  | int (value : Int)
  | float (value : Binary64)
  | dot
  | openBracket
  | closeBracket
  | pipe
  | colon
  | comma
deriving DecidableEq, Inhabited

namespace Token

def text : Token → String
  | .word w => "'" ++ w ++ "'"
  | .string s => "string '" ++ s ++ "'"
  | .int i => toString i
  | .float x => FloatLayout.plain.text x
  | .dot => "'.'"
  | .openBracket => "'['"
  | .closeBracket => "']'"
  | .pipe => "'|'"
  | .colon => "':'"
  | .comma => "','"

def listing : Token → String
  | .word w => "Word(" ++ Text.listed w ++ ")"
  | .string s => "Str(" ++ Text.listed s ++ ")"
  | .int i => "Int(" ++ toString i ++ ")"
  | .float x => "Float(" ++ FloatLayout.listing.text x ++ ")"
  | .dot => "Dot"
  | .openBracket => "LBracket"
  | .closeBracket => "RBracket"
  | .pipe => "Pipe"
  | .colon => "Colon"
  | .comma => "Comma"

end Token

end TemplateQuery.Template
