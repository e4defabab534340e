/-!
# Ordered dictionaries

A dictionary is the list of its entries in the order in which their keys first appeared. Setting a
key that is present keeps its place and changes its value.
-/
namespace TemplateQuery

abbrev Dict (α : Type) := List (String × α)

namespace Dict

variable {α : Type}

def get? : Dict α → String → Option α
  | [], _ => none
  | (k, v) :: rest, key => if k = key then some v else get? rest key

def hasKey (d : Dict α) (key : String) : Bool := (d.get? key).isSome

def put : Dict α → String → α → Dict α
  | [], key, value => [(key, value)]
  | (k, v) :: rest, key, value =>
    if k = key then (k, value) :: rest else (k, v) :: put rest key value

/-- Sets every entry of `more` in turn, so that of two values for a key the later one stays. -/
def merge (d more : Dict α) : Dict α := more.foldl (fun acc e => acc.put e.1 e.2) d

/-- The dictionary of a list of entries that may repeat a key. -/
def ofList (entries : List (String × α)) : Dict α := merge [] entries

def keys (d : Dict α) : List String := d.map (·.1)

def values (d : Dict α) : List α := d.map (·.2)

end Dict

end TemplateQuery
