import TemplateQuery.Policy

/-!
# Arguments of the command line

There are two commands, each with one positional argument and options of its own; the option that names a settings
file stands before or after the command. Arguments are read from the left. The value of an option may stand in the
same word or in the next one, and is looked at only when the argument after it begins, so that of two mistakes the
first one counts and that a request for help after a mistake is not heard. After `--` every word is positional.
-/
namespace TemplateQuery.CommandLine

inductive Argument where
  | settings
  | data
  | policy
  | strict
  | pausing
  | template
  | path
deriving DecidableEq

namespace Argument

/-- The letter of an option. -/
def short? : Argument → Option Char
  | .settings => some 'c'
  | .data => some 'd'
  | .policy => some 'p'
  | _ => none

/-- The word of an option. -/
def long? : Argument → Option String
  | .settings => some "config"
  | .data => some "data"
  | .policy => some "policy"
  | .strict => some "strict"
  | .pausing => some "async"
  | _ => none

/-- The name of the value. -/
def value? : Argument → Option String
  | .settings => some "CONFIG"
  | .data => some "DATA"
  | .policy => some "POLICY"
  | .strict => none
  | .pausing => none
  | .template => some "TEMPLATE"
  | .path => some "PATH"

/-- Whether the argument may have that value: file names are not empty, and policies have a name. -/
def accepts (value : String) : Argument → Bool
  | .settings => !value.isEmpty
  | .data => !value.isEmpty
  | .template => !value.isEmpty
  | .policy => (Policy.ofName? value).isSome
  | _ => true

end Argument

inductive Command where
  | render
  | query
deriving DecidableEq

namespace Command

def name : Command → String
  | .render => "render"
  | .query => "query"

def ofName? (s : String) : Option Command :=
  if s = "render" then some .render else if s = "query" then some .query else none

end Command

/-- Where in the command line arguments are read: before the command or after it. -/
inductive Level where
  | top
  | within (command : Command)
deriving DecidableEq

namespace Level

/-- The options, in the order of a listing. -/
def options : Level → List Argument
  | .top => [.settings]
  | .within .render => [.settings, .data, .policy, .strict, .pausing]
  | .within .query => [.settings, .data, .policy]

def positional? : Level → Option Argument
  | .top => none
  | .within .render => some .template
  | .within .query => some .path

end Level

/-- What is asked for instead of a run. -/
inductive Topic where
  | version
  /-- The help on a level, in full or in short. -/
  | help (level : Level) (full : Bool)
  | helpOnHelp
deriving DecidableEq

/-- Why reading the arguments does not lead to a run. -/
inductive Refusal where
  | misuse
  | asked (topic : Topic)
deriving DecidableEq

/-- What has been read at one level. -/
structure Scan where
  given : List (Argument × String)
  /-- The argument read last, with its value unless that is still to come. -/
  pending : Option (Argument × Option String)
  positionalOnly : Bool

namespace Scan

def start : Scan := ⟨[], none, false⟩

def get? (s : Scan) (a : Argument) : Option String := s.given.lookup a

def isWaiting (s : Scan) : Bool :=
  match s.pending with
  | some (_, none) => true
  | _ => false

/-- Looks at the argument read last: it has a value, was not given before, and accepts the value. -/
def settle (s : Scan) : Except Refusal Scan :=
  match s.pending with
  | none => .ok s
  | some (_, none) => .error .misuse
  | some (a, some value) =>
    if (s.get? a).isSome || !a.accepts value then .error .misuse
    else .ok { s with given := s.given ++ [(a, value)], pending := none }

/-- Begins the next argument. -/
def begin (s : Scan) (a : Argument) (value : Option String) : Except Refusal Scan := do
  let s ← s.settle
  return { s with pending := some (a, value) }

def ask {α : Type} (s : Scan) (topic : Topic) : Except Refusal α := do
  let _ ← s.settle
  throw (.asked topic)

/-- A word that is the positional argument. -/
def positional (s : Scan) (level : Level) (word : String) : Except Refusal Scan := do
  let s ← s.settle
  match level.positional? with
  | some a => if (s.get? a).isSome then throw .misuse else s.begin a (some word)
  | none => throw .misuse

/-- A word with two dashes: the word of an option, and perhaps a value after an equals sign. -/
def long (s : Scan) (level : Level) (word : List Char) : Except Refusal Scan :=
  let name := String.ofList (word.takeWhile (· != '='))
  let attached := match word.dropWhile (· != '=') with
    | _ :: value => some (String.ofList value)
    | [] => none
  match level.options.find? fun a => a.long? = some name with
  | some a =>
    match a.value?, attached with
    | some _, value => s.begin a value
    | none, none => s.begin a (some "")
    | none, some _ => .error .misuse
  | none =>
    if attached.isSome then .error .misuse
    else if name = "help" then s.ask (.help level true)
    else if name = "version" ∧ level = .top then s.ask .version
    else .error .misuse

/-- A word with one dash: the letter of an option, and perhaps its value. -/
def short (s : Scan) (level : Level) (letter : Char) (attached : List Char) : Except Refusal Scan :=
  match level.options.find? fun a => a.short? = some letter with
  | some a =>
    match attached with
    | [] => s.begin a none
    | '=' :: value => s.begin a (some (String.ofList value))
    | value => s.begin a (some (String.ofList value))
  | none =>
    if letter = 'h' then s.ask (.help level false)
    else if letter = 'V' ∧ level = .top then s.ask .version
    else .error .misuse

/-- Reads one word. -/
def word (s : Scan) (level : Level) (text : String) : Except Refusal Scan :=
  if s.positionalOnly then s.positional level text
  else match text.toList with
    | ['-', '-'] => .ok { s with positionalOnly := true }
    | '-' :: '-' :: rest => s.long level rest
    | '-' :: letter :: attached => s.short level letter attached
    | _ =>
      match s.pending with
      | some (a, none) => .ok { s with pending := some (a, some text) }
      | _ => s.positional level text

end Scan

/-- A run that the command line asks for. -/
structure Invocation where
  command : Command
  /-- The template file or the path. -/
  subject : String
  settings : Option String
  data : Option String
  policy : Option Policy
  strict : Bool
  pausing : Bool
deriving DecidableEq

/-- The words after a command. -/
def readWithin (command : Command) (words : List String) : Except Refusal Invocation := do
  let level := Level.within command
  let scan ← words.foldlM (fun s w => s.word level w) Scan.start
  let scan ← scan.settle
  match level.positional?.bind scan.get? with
  | none => throw .misuse
  | some subject =>
    return ⟨command, subject, scan.get? .settings, scan.get? .data, (scan.get? .policy).bind Policy.ofName?,
      (scan.get? .strict).isSome, (scan.get? .pausing).isSome⟩

/-- The topic that the words after `help` ask for. -/
def readTopic : List String → Refusal
  | [] => .asked (.help .top true)
  | [word] =>
    match Command.ofName? word with
    | some command => .asked (.help (.within command) true)
    | none => if word = "help" then .asked .helpOnHelp else .misuse
  | _ => .misuse

/-- The words of a command line from where `scan` has come to. A settings file named after the command counts. -/
def readFrom (scan : Scan) : List String → Except Refusal Invocation
  | [] => throw .misuse
  | word :: rest =>
    let isOpen := !scan.positionalOnly && !scan.isWaiting
    match (if isOpen then Command.ofName? word else none) with
    | some command => do
      let invocation ← readWithin command rest
      let scan ← scan.settle
      return { invocation with settings := invocation.settings <|> scan.get? .settings }
    | none =>
      if isOpen && word = "help" then throw (readTopic rest)
      else do
        let scan ← scan.word .top word
        readFrom scan rest

def readArguments (words : List String) : Except Refusal Invocation := readFrom .start words

end TemplateQuery.CommandLine
