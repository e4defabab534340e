import TemplateQuery.Toml.Words

/-!
# Reading TOML documents

A document is a list of lines: a pair of key and value belongs to the table whose header came last. Tables may be
given in any order, but each of them only once; a table that only came up in the path of another one is implicit
and may still be given, and a table made by a dotted key may only be extended by dotted keys. A table that gets its
header after it was implicit moves behind the tables given so far.
-/
namespace TemplateQuery.Toml

/-- How a table came about. -/
inductive Origin where
  | header
  | implicit
  | dotted
deriving DecidableEq, Inhabited

/-- What a key of a document under construction stands for. -/
inductive Item where
  | value (json : Json)
  | table (origin : Origin) (entries : List (String × Item))
  | tables (elements : List (List (String × Item)))
deriving Inhabited

abbrev Entries := List (String × Item)

mutual

def Item.toJson : Item → Json
  | .value json => json
  | .table _ entries => .object (entriesToJson entries)
  | .tables elements => .array (elementsToJson elements)
termination_by structural x => x

def entriesToJson : List (String × Item) → List (String × Json)
  | [] => []
  | (key, item) :: rest => (key, item.toJson) :: entriesToJson rest
termination_by structural x => x

def elementsToJson : List (List (String × Item)) → List Json
  | [] => []
  | entries :: rest => .object (entriesToJson entries) :: elementsToJson rest
termination_by structural x => x

end

/--
Changes the table at the end of a path, making the tables on the way as needed. A path through an array of tables
goes on in the last element. With `dotted`, no table on the way may have a header of its own.
-/
def updateAt (dotted : Bool) (change : Origin → Entries → Option Entries) :
    (path : List String) → Origin → Entries → Option Entries
  | [], origin, entries => change origin entries
  | key :: path, _, entries =>
    match Dict.get? entries key with
    | none => do
      let origin := if dotted then .dotted else .implicit
      let inner ← updateAt dotted change path origin []
      return entries ++ [(key, .table origin inner)]
    | some (.table origin inner) =>
      if dotted && origin == .header then none
      else do
        let inner ← updateAt dotted change path origin inner
        return Dict.put entries key (.table origin inner)
    | some (.tables elements) =>
      match elements.reverse with
      | [] => none
      | last :: before => do
        let last ← updateAt dotted change path .header last
        return Dict.put entries key (.tables (before.reverse ++ [last]))
    | some (.value _) => none

/-- Adds a pair whose key is `path` followed by `key` to a table. -/
def insertPair (path : List String) (key : String) (item : Item) (origin : Origin) (entries : Entries) :
    Option Entries :=
  updateAt true (fun origin entries =>
    if (origin == .dotted) == path.isEmpty || Dict.hasKey entries key then none
    else some (entries ++ [(key, item)])) path origin entries

/-! ## Values -/

/-- The values of an array after its opening bracket. -/
def readElements (value : Reading Json) : (fuel : Nat) → Reading (List Json)
  | 0, _ => none
  | fuel + 1, s =>
    match skipLines (s.length + 1) s with
    | ']' :: rest => some ([], rest)
    | s => do
      let (x, rest) ← value s
      match skipLines (rest.length + 1) rest with
      | ',' :: rest =>
        let (xs, rest) ← readElements value fuel rest
        return (x :: xs, rest)
      | ']' :: rest => return ([x], rest)
      | _ => none

def readPair (value : Reading Json) (s : List Char) : Option ((List String × Json) × List Char) := do
  let (path, rest) ← readKey s
  let rest ← after? '=' (skipSpace rest)
  let (x, rest) ← value (skipSpace rest)
  return ((path, x), rest)

/-- The pairs of an inline table, of which there is at least one. -/
def readPairs (value : Reading Json) : (fuel : Nat) → Reading (List (List String × Json))
  | 0, _ => none
  | fuel + 1, s => do
    let (pair, rest) ← readPair value s
    match skipSpace rest with
    | ',' :: rest =>
      let (pairs, rest) ← readPairs value fuel rest
      return (pair :: pairs, rest)
    | '\x7d' :: rest => return ([pair], rest)
    | _ => none

/-- The table of a list of pairs with dotted keys. -/
def tableOfPairs (pairs : List (List String × Json)) : Option Json := do
  let entries ← pairs.foldlM (fun entries (path, x) =>
    insertPair path.dropLast (path.getLastD "") (.value x) .header entries) []
  return .object (entriesToJson entries)

/-- The rest of an inline table after its opening brace. -/
def readInlineTable (value : Reading Json) (s : List Char) : Option (Json × List Char) :=
  match skipSpace s with
  | '\x7d' :: rest => some (.object [], rest)
  | s => do
    let (pairs, rest) ← readPairs value (s.length + 1) s
    let table ← tableOfPairs pairs
    return (table, rest)

/-- A value in which arrays and inline tables nest at most `depth` deep. -/
def readValue : (depth : Nat) → Reading Json
  | depth, s =>
    match s with
    | 't' :: 'r' :: 'u' :: 'e' :: rest => some (.bool true, rest)
    | 'f' :: 'a' :: 'l' :: 's' :: 'e' :: rest => some (.bool false, rest)
    | '[' :: rest =>
      match depth with
      | 0 => none
      | depth + 1 =>
        (readElements (readValue depth) (rest.length + 1) rest).map fun (xs, rest) => (.array xs, rest)
    | '\x7b' :: rest =>
      match depth with
      | 0 => none
      | depth + 1 => readInlineTable (readValue depth) rest
    | '"' :: _ => (readString s).map fun (t, rest) => (.string t, rest)
    | '\'' :: _ => (readString s).map fun (t, rest) => (.string t, rest)
    | s =>
      match readDateTime s with
      | some found => some found
      | none => readNumber s

/-! ## Documents -/

/-- The tables finished so far and the one that lines are added to now. -/
structure State where
  root : Entries
  path : List String
  /-- Whether the current table is an element of an array of tables. -/
  isElement : Bool
  current : Entries

def State.start : State := ⟨[], [], false, []⟩

/-- The tables with the current one put in its place. -/
def State.finish (s : State) : Option Entries :=
  match s.path.getLast? with
  | none => some s.current
  | some key =>
    updateAt false (fun _ entries =>
      match Dict.get? entries key with
      | none => some (entries ++ [(key, if s.isElement then .tables [s.current] else .table .header s.current)])
      | some (.tables elements) =>
        if s.isElement then some (Dict.put entries key (.tables (elements ++ [s.current]))) else none
      | some _ => none) s.path.dropLast .header s.root

def without (entries : Entries) (key : String) : Entries := entries.filter fun e => e.1 != key

/-- The entries of an implicit table at the end of a path. -/
def implicitEntries? (key : String) (entries : Entries) : Option Entries :=
  match Dict.get? entries key with
  | none => some []
  | some (.table .implicit inner) => some inner
  | some _ => none

/-- The entries at the end of a path, if it leads to a table. -/
def entriesAt? : List String → Entries → Option Entries
  | [], entries => some entries
  | key :: path, entries =>
    match Dict.get? entries key with
    | none => some []
    | some (.table _ inner) => entriesAt? path inner
    | some (.tables elements) =>
      match elements.getLast? with
      | some last => entriesAt? path last
      | none => none
    | some (.value _) => none

/-- Starts the table of a header; what was implicit of it is kept. -/
def State.startTable (s : State) (path : List String) : Option State := do
  let root ← s.finish
  let key := path.getLastD ""
  let parent ← entriesAt? path.dropLast root
  let inner ← implicitEntries? key parent
  let root ← updateAt false (fun _ entries => some (without entries key)) path.dropLast .header root
  return ⟨root, path, false, inner⟩

/-- Starts a new element of an array of tables. -/
def State.startElement (s : State) (path : List String) : Option State := do
  let root ← s.finish
  let key := path.getLastD ""
  let root ← updateAt false (fun _ entries =>
    match Dict.get? entries key with
    | none => some (entries ++ [(key, .tables [])])
    | some (.tables _) => some entries
    | some _ => none) path.dropLast .header root
  return ⟨root, path, true, []⟩

def State.addPair (s : State) (path : List String) (x : Json) : Option State := do
  let current ← insertPair path.dropLast (path.getLastD "") (.value x) .header s.current
  return { s with current := current }

/-- Reads one line. -/
def State.step (s : State) (line : List Char) : Option (State × List Char) := do
  match skipSpace line with
  | [] => none
  | '[' :: '[' :: rest =>
    let (path, rest) ← readKey rest
    let rest ← after? ']' (skipSpace rest)
    let rest ← after? ']' rest
    let rest ← afterLine? rest
    let s ← s.startElement path
    return (s, rest)
  | '[' :: rest =>
    let (path, rest) ← readKey rest
    let rest ← after? ']' (skipSpace rest)
    let rest ← afterLine? rest
    let s ← s.startTable path
    return (s, rest)
  | c :: rest =>
    if c = '#' ∨ c = '\n' ∨ c = '\r' then
      let rest ← afterLine? (c :: rest)
      return (s, rest)
    else
      let ((path, x), rest) ← readPair (readValue 79) (c :: rest)
      let rest ← afterLine? rest
      let s ← s.addPair path x
      return (s, rest)

/-- Reads lines to the end; every line has a character at least. -/
def State.run : (fuel : Nat) → State → List Char → Option State
  | 0, _, _ => none
  | fuel + 1, s, text =>
    if (skipSpace text).isEmpty then some s
    else match s.step text with
      | some (s, rest) => State.run fuel s rest
      | none => none

/-- The text without a byte order mark at its start. -/
def dropMark : List Char → List Char
  | '\ufeff' :: rest => rest
  | s => s

/-- The table that a document describes. -/
def parse? (text : String) : Option (Dict Json) := do
  let text := dropMark text.toList
  let s ← State.start.run (text.length + 1) text
  let entries ← s.finish
  return entriesToJson entries

end TemplateQuery.Toml
