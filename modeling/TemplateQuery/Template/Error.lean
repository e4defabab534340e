import TemplateQuery.Application
import TemplateQuery.Template.Token

/-!
# Template errors

What can go wrong when a template is read and when it is rendered. Reading only ever fails with a malformed
expression or header, or with tags that do not pair up; all other errors belong to rendering.
-/
namespace TemplateQuery.Template

/-- What an expression or a header needed next. -/
inductive Sought where
  | token (t : Token)
  | identifier
  | operand
deriving DecidableEq, Inhabited

def Sought.text : Sought → String
  | .token t => t.text
  | .identifier => "an identifier"
  | .operand => "a literal or variable"

/-- What is wrong with an expression or a header. -/
inductive Malformation where
  | unterminatedString
  | strayChar (c : Char)
  | number (text : String)
  | expected (what : Sought) (found : Option Token)
  | bracketKey
  | trailing (token : Token)
  | missingIn (name : String)
  | missingPath
  | path (text : String) (error : Query.Error)
  | strayModifier (token : Token)
deriving DecidableEq, Inhabited

def foundText : Option Token → String
  | some t => t.text
  | none => "end of expression"

def Malformation.text : Malformation → String
  | .unterminatedString => "unterminated string literal"
  | .strayChar c => "unexpected character '" ++ String.singleton c ++ "'"
  | .number text => "invalid number '" ++ text ++ "'"
  | .expected what found => "expected " ++ what.text ++ ", found " ++ foundText found
  | .bracketKey => "expected a string or integer inside brackets"
  | .trailing token => "unexpected " ++ token.text
  | .missingIn name => "expected 'in' after '" ++ name ++ "' in for loop header"
  | .missingPath => "expected a quoted JSONPath after '|' in for loop header"
  | .path text error => "invalid JSONPath '" ++ text ++ "': " ++ error.message
  | .strayModifier token => "unexpected " ++ token.listing ++ " in for loop header"

/-- What is wrong with the markup of a template, apart from what stands inside it. -/
inductive MarkupFault where
  | unclosed (opening : String)
  | emptyTag
  | strayTag (name : String)
  | unknownTag (name : String)
  | secondElse
  | missingEnd (name : String)
deriving DecidableEq, Inhabited

def MarkupFault.text (line : Nat) : MarkupFault → String
  | .unclosed opening => "unclosed '" ++ opening ++ "' on line " ++ toString line
  | .emptyTag => "empty tag on line " ++ toString line
  | .strayTag name => "unexpected '" ++ name ++ "' on line " ++ toString line
  | .unknownTag name => "unknown tag '" ++ name ++ "' on line " ++ toString line
  | .secondElse => "unexpected second 'else' on line " ++ toString line
  | .missingEnd name =>
    "'" ++ name ++ "' on line " ++ toString line ++ " is missing 'end" ++ name ++ "'"

inductive ArgumentProblem where
  /-- The argument at a position, counted from one. -/
  | undefined (position : Nat)
  | notAPath
  | count (given : Nat)
  | query (failure : Failure)
deriving DecidableEq, Inhabited

def ArgumentProblem.text : ArgumentProblem → String
  | .undefined position => "argument " ++ toString position ++ " is undefined"
  | .notAPath => "expected a JSONPath string argument"
  | .count given => "expected 1 argument, found " ++ toString given
  | .query failure => failure.message

inductive TypeProblem where
  | loopBound (name : String) (found : Json)
  | renderData (found : Json)
  | query (failure : Failure)
deriving Inhabited

def TypeProblem.text : TypeProblem → String
  | .loopBound name found => "loop " ++ name ++ " must be an integer, found " ++ found.compact
  | .renderData found => "render data must be an object, found " ++ found.compact
  | .query failure => failure.message

inductive Error where
  /-- A malformed expression or header, with the line of the template it is on. -/
  | malformed (cause : Malformation) (line : Option Nat)
  | unbalanced (fault : MarkupFault) (line : Nat)
  | argument (filter : String) (problem : ArgumentProblem)
  | type (problem : TypeProblem)
  | undefined (hint : String)
  | unknownFilter (name : String)
deriving Inhabited

namespace Error

def lineText : Option Nat → String
  | some line => " on line " ++ toString line
  | none => ""

def message : Error → String
  | .malformed cause line => "syntax error: " ++ cause.text ++ lineText line
  | .unbalanced fault line => "syntax error: " ++ fault.text line
  | .argument filter problem => filter ++ ": " ++ problem.text
  | .type problem => "type error: " ++ problem.text
  | .undefined hint => hint
  | .unknownFilter name => "unknown filter '" ++ name ++ "'"

/-- The failed query behind the error, if there is one. -/
def failure? : Error → Option Failure
  | .argument _ (.query failure) => some failure
  | .type (.query failure) => some failure
  | _ => none

/-- The query error at the bottom of the error, if there is one. -/
def queryError? : Error → Option Query.Error
  | .malformed (.path _ error) _ => some error
  | e => e.failure?.bind Failure.queryError?

end Error

end TemplateQuery.Template
