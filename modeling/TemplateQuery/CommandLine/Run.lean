import TemplateQuery.CommandLine.Help
import TemplateQuery.Json.Reader
import TemplateQuery.Pattern.Reader
import TemplateQuery.Settings

/-!
# Runs of the command line

A run reads its settings, then its data, then its template, and stops at the first fault. Files and standard input
are reached through `Surroundings`, so that a run does not depend on what they are. The patterns of its queries are those
of `Pattern.engine`.
-/
namespace TemplateQuery.CommandLine

/-- What a run can reach. -/
structure Surroundings (m : Type → Type) where
  /-- The text of a file, unless it cannot be read. -/
  readFile : String → m (Option String)
  /-- The text that is piped in, if there is any pipe. -/
  readInput : m (Option String)
  /-- The settings file of the home directory. -/
  readSettings : m SettingsFile

/-- Why a run fails. -/
inductive Fault where
  | settings (path : String) (fault : SettingsFault)
  | unreadable (path : String)
  | noData
  | invalidData
  | template (path : String) (error : Template.Error)
  | rendering (error : Template.Error)
  | query (failure : Failure)

namespace Fault

def message : Fault → String
  | .settings path fault => fault.message path
  | .unreadable path => "failed to read " ++ path
  | .noData => "no JSON data to read"
  | .invalidData => "invalid JSON data"
  | .template path _ => "failed to parse " ++ path
  | .rendering e => e.message
  | .query f => f.message

def causesOfFailure (f : Failure) : List String := f.queryError?.toList.map Query.Error.message

def causesOfError (e : Template.Error) : List String :=
  e.failure?.toList.map Failure.message ++ e.queryError?.toList.map Query.Error.message

/-- The messages of the errors behind the fault. -/
def causes : Fault → List String
  | .template _ e => e.message :: causesOfError e
  | .rendering e => causesOfError e
  | .query f => causesOfFailure f
  | _ => []

def causeLines : List String → String
  | [] => ""
  | [cause] => "\n\nCaused by:\n    " ++ cause
  | causes => "\n\nCaused by:" ++ String.join (causes.zipIdx.map fun (cause, i) =>
      "\n    " ++ toString i ++ ": " ++ cause)

/-- The fault as it is reported, with its causes below it. -/
def report (f : Fault) : String := "Error: " ++ f.message ++ causeLines f.causes ++ "\n"

end Fault

section

variable {m : Type → Type} [Monad m]

def chosenSettings (s : Surroundings m) : Option String → ExceptT Fault m Settings
  | none => do
    let file ← s.readSettings
    return file.readOrDefault
  | some path => do
    let text ← s.readFile path
    match (text.elim SettingsFile.absent SettingsFile.text).read with
    | .ok settings => return settings
    | .error fault => throw (.settings path fault)

/-- The settings with what the command line says on top. -/
def Invocation.adjust (i : Invocation) (s : Settings) : Settings :=
  { s with policy := i.policy.getD s.policy, strict := s.strict || i.strict }

def parseData (text : String) : Except Fault Json :=
  if (Text.trim text.toList).isEmpty then .error .noData
  else match Json.parse? text with
    | some data => .ok data
    | none => .error .invalidData

def readText (s : Surroundings m) (path : String) : ExceptT Fault m String := do
  match ← s.readFile path with
  | some text => return text
  | none => throw (.unreadable path)

/-- The data of a file or of standard input. Without any it is null. -/
def readData (s : Surroundings m) : Option String → ExceptT Fault m Json
  | some path => do
    let text ← readText s path
    liftExcept (parseData text)
  | none => do
    match ← (s.readInput : m (Option String)) with
    | some text => liftExcept (parseData text)
    | none => return .null
where
  liftExcept (x : Except Fault Json) : ExceptT Fault m Json := ExceptT.mk (pure x)

def parseTemplate (settings : Settings) (path source : String) : Except Fault Template :=
  match Template.ofText settings.environment source [] with
  | .ok template => .ok template
  | .error e => .error (.template path e)

def renderTemplate (template : Template) (pausing : Bool) (data : Json) : Except Fault String :=
  match (if pausing then (template.renderPausing data).run else template.render data) with
  | .ok text => .ok text
  | .error e => .error (.rendering e)

/-- The matches of a query as they are printed. An undefined result prints nothing. -/
def queryText (settings : Settings) (path : String) (data : Json) : Except Fault String :=
  match settings.apply (.defined data) path with
  | .ok (.found values) => .ok ((Json.array values).pretty ++ "\n")
  | .ok (.undefined _) => .ok ""
  | .error f => .error (.query f)

/-- What a run prints. -/
def Invocation.run (i : Invocation) (s : Surroundings m) : ExceptT Fault m String := do
  let settings ← chosenSettings s i.settings
  let settings := i.adjust settings
  let data ← readData s i.data
  match i.command with
  | .render => do
    let source ← readText s i.subject
    ExceptT.mk (pure do
      let template ← parseTemplate settings i.subject source
      renderTemplate template i.pausing data)
  | .query => ExceptT.mk (pure (queryText settings i.subject data))

/-- How a command line ends. -/
inductive Outcome where
  | printed (text : String)
  | failed (fault : Fault)
  | misused

def run (s : Surroundings m) (arguments : List String) : m Outcome :=
  match readArguments arguments with
  | .error (.asked topic) => return .printed topic.text
  | .error .misuse => return .misused
  | .ok invocation => do
    match ← (invocation.run s).run with
    | .ok text => return .printed text
    | .error fault => return .failed fault

end

def usageText : String :=
  "error: the arguments cannot be used\n\nUsage: " ++ programName
    ++ " [OPTIONS] <COMMAND>\n\nFor more information, try '--help'.\n"

end TemplateQuery.CommandLine
