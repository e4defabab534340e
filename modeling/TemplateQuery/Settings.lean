import TemplateQuery.Template.Basic
import TemplateQuery.Toml.Printer
import TemplateQuery.Toml.Reader

/-!
# Settings

What a settings file may say: the failure policy of queries, whether undefined values are errors, and values that
every template and every query can see. Each of the three may be missing and then has a default; members of other
names are passed over. A file that cannot be used is no reason to stop unless it was asked for by name.
-/
namespace TemplateQuery

structure Settings where
  policy : Policy
  strict : Bool
  globals : Dict Json

namespace Settings

instance : Inhabited Settings := ⟨⟨.undefined, false, []⟩⟩

/-! ## Reading -/

/-- Whether a value says that a variant carries nothing. -/
abbrev IsUnit := Json → Bool

/-- A policy is given by its name, or as an object with that one member, which carries nothing. -/
def policyOf? (isUnit : IsUnit) : Json → Option Policy
  | .string name => Policy.ofName? name
  | .object [(name, x)] => if isUnit x then Policy.ofName? name else none
  | _ => none

def strictOf? : Json → Option Bool
  | .bool b => some b
  | _ => none

def globalsOf? : Json → Option (Dict Json)
  | .object members => some members
  | _ => none

/-- The value of a field, or the default if it is missing. -/
def orDefault {α : Type} (fallback : α) (read? : Json → Option α) : Option Json → Option α
  | none => some fallback
  | some x => read? x

/-- The settings of three fields that may be missing. -/
def ofFields? (isUnit : IsUnit) (policy strict globals : Option Json) : Option Settings := do
  let base : Settings := default
  return ⟨← orDefault base.policy (policyOf? isUnit) policy, ← orDefault base.strict strictOf? strict,
    ← orDefault base.globals globalsOf? globals⟩

def ofMembers? (isUnit : IsUnit) (members : Dict Json) : Option Settings :=
  ofFields? isUnit (Dict.get? members "default_policy") (Dict.get? members "strict_undefined")
    (Dict.get? members "globals")

def isNull : Json → Bool
  | .null => true
  | _ => false

def isHollow : Json → Bool
  | .array [] => true
  | .object [] => true
  | _ => false

/-- The settings of an object, or of an array that has the fields in their order. -/
def ofJson? : Json → Option Settings
  | .object members => ofMembers? isNull members
  | .array items => if items.length ≤ 3 then ofFields? isNull items[0]? items[1]? items[2]? else none
  | _ => none

/-- The settings of a TOML document. -/
def ofToml? (text : String) : Option Settings := (Toml.parse? text).bind (ofMembers? isHollow)

/-! ## Writing -/

def members (s : Settings) : Dict Json :=
  [("default_policy", .string s.policy.name), ("strict_undefined", .bool s.strict), ("globals", .object s.globals)]

/-- The settings as a TOML document, unless a global has no form there. -/
def toToml? (s : Settings) : Option String := Toml.render? s.members

/-! ## Use -/

def mode (s : Settings) : Template.UndefinedMode := if s.strict then .strict else .lenient

def querySettings [Query.PatternEngine] (s : Settings) : QuerySettings := .standard s.policy

/-- Applies a path, where the globals are the extra data. -/
def apply [Query.PatternEngine] (s : Settings) (value : Value) (path : String) : Except Failure Applied :=
  s.querySettings.apply value path (.object s.globals)

def environment [Query.PatternEngine] (s : Settings) : Template.Environment :=
  { Template.Environment.withQueries s.querySettings with mode := s.mode, globals := s.globals }

end Settings

/-! ## Files -/

/-- What there is at the place of a settings file. -/
inductive SettingsFile where
  | text (content : String)
  | absent
  /-- The directory cannot be made, so nothing can be written either. -/
  | blocked
deriving DecidableEq

/-- Why a settings file could not be used. -/
inductive SettingsFault where
  | unreadable
  | invalid
deriving DecidableEq

def SettingsFault.message (path : String) : SettingsFault → String
  | .unreadable => "failed to read " ++ path
  | .invalid => "failed to parse " ++ path

namespace SettingsFile

/-- The place of the settings file in a home directory. -/
def path (home : String) : String := home ++ "/.config/liquid-jsonpath/config.toml"

/-- The settings that the file gives. -/
def read : SettingsFile → Except SettingsFault Settings
  | .text content =>
    match Settings.ofToml? content with
    | some settings => .ok settings
    | none => .error .invalid
  | _ => .error .unreadable

/-- The settings that the file gives, or the default ones. -/
def readOrDefault (file : SettingsFile) : Settings :=
  match file.read with
  | .ok settings => settings
  | .error _ => default

/-- The file after the settings were written to it, if they could be. -/
def write? (file : SettingsFile) (settings : Settings) : Option SettingsFile :=
  match file with
  | .blocked => none
  | _ => settings.toToml?.map .text

end SettingsFile

end TemplateQuery
