import TemplateQuery.Json.Basic

/-!
# Comparing JSON values

Numbers are compared by their binary64 values, so `1` equals `1.0`, and objects without regard to
the order of their members. Only two numbers or two strings are ordered; strings are ordered by
code points.
-/
namespace TemplateQuery.Json

mutual

/-- Structural equality up to the spelling of numbers and the order of members. -/
def equal : Json → Json → Bool
  | .null, .null => true
  | .bool a, .bool b => a == b
  | .number x, .number y => x.toBinary64.equal y.toBinary64
  | .string a, .string b => a == b
  | .array xs, .array ys => equalItems xs ys
  | .object xs, .object ys => xs.length == ys.length && membersWithin xs ys
  | _, _ => false
termination_by structural x => x

def equalItems : List Json → List Json → Bool
  | [], [] => true
  | x :: xs, y :: ys => equal x y && equalItems xs ys
  | _, _ => false
termination_by structural x => x

/-- Every member on the left has an equal member of its name on the right. -/
def membersWithin : List (String × Json) → List (String × Json) → Bool
  | [], _ => true
  | (key, x) :: rest, ys =>
    (match Dict.get? ys key with
      | some y => equal x y
      | none => false) && membersWithin rest ys
termination_by structural x => x

end

def less : Json → Json → Bool
  | .number x, .number y => x.toBinary64.less y.toBinary64
  | .string a, .string b => a < b
  | _, _ => false

/-- Whether the second text occurs in the first. -/
def occursIn (needle : List Char) : List Char → Bool
  | [] => needle.isEmpty
  | c :: rest => needle.isPrefixOf (c :: rest) || occursIn needle rest

/-- Membership: an element of an array, a member name of an object or a part of a string. -/
def contains : Json → Json → Bool
  | .array items, item => items.any (equal · item)
  | .object members, .string key => Dict.hasKey members key
  | .string text, .string part => occursIn part.toList text.toList
  | _, _ => false

end TemplateQuery.Json
