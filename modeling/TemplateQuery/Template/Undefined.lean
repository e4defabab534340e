import TemplateQuery.Template.Error

/-!
# Undefined values

In strict mode every use of an undefined value is an error; in lenient mode it writes nothing and iterates over
nothing.
-/
namespace TemplateQuery.Template

inductive UndefinedMode where
  | lenient
  | strict
deriving DecidableEq, Inhabited

namespace UndefinedMode

def listing : UndefinedMode → String
  | .lenient => "Lenient"
  | .strict => "Strict"

def check (mode : UndefinedMode) (value : Value) : Except Error Unit :=
  match mode, value with
  | .strict, .undefined hint => .error (.undefined hint)
  | _, _ => .ok ()

/-- What a value adds to the output. -/
def output (mode : UndefinedMode) (value : Value) : Except Error String := do
  mode.check value
  return value.text

end UndefinedMode

end TemplateQuery.Template
