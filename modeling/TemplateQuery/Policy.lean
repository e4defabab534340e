import TemplateQuery.Text.Basic

/-!
# Failure policies

What a query that cannot be answered stands for: an error, the undefined value, or no matches.
-/
namespace TemplateQuery

inductive Policy where
  | raise
  | undefined
  | empty
deriving DecidableEq

namespace Policy

instance : Inhabited Policy := ⟨.undefined⟩

def name : Policy → String
  | .raise => "raise"
  | .undefined => "undefined"
  | .empty => "empty"

/-- The policy of exactly that name. -/
def ofName? (s : String) : Option Policy :=
  if s = "raise" then some .raise
  else if s = "undefined" then some .undefined
  else if s = "empty" then some .empty
  else none

/-- The policy of a name in any letter case with white space around it. -/
def ofText? (s : String) : Option Policy :=
  ofName? (String.ofList ((Text.trim s.toList).map Char.toLower))

def unknownMessage (s : String) : String :=
  "unknown default policy '" ++ s ++ "', expected raise, undefined or empty"

end Policy

end TemplateQuery
