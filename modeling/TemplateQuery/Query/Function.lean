import TemplateQuery.Dict
import TemplateQuery.Query.Error
import TemplateQuery.Query.Operand
import TemplateQuery.Text.Listing

/-!
# Function tables

The functions that filter expressions may call, by name. A function takes the operands of a call and
gives an answer or fails.
-/
namespace TemplateQuery.Query

abbrev Function := List Operand → Except Error Answer

abbrev FunctionTable := Dict Function

namespace FunctionTable

def empty : FunctionTable := []

/-- Adds a function or replaces the one of that name. -/
def register (table : FunctionTable) (name : String) (function : Function) : FunctionTable :=
  Dict.put table name function

def knows (table : FunctionTable) (name : String) : Bool := Dict.hasKey table name

def call (table : FunctionTable) (name : String) (arguments : List Operand) : Except Error Answer :=
  match Dict.get? table name with
  | some function => function arguments
  | none => .error (.unknownFunction name)

/-- The table as a listing shows it: the names in order. -/
def listing (table : FunctionTable) : String :=
  "FunctionRegistry \x7b functions: "
    ++ Text.listedAll ((Dict.keys table).mergeSort fun a b => a ≤ b) ++ " \x7d"

end FunctionTable

end TemplateQuery.Query
