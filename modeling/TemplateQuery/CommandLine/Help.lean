import TemplateQuery.CommandLine.Arguments

/-!
# Help texts

Every argument has a line of help. The short form puts it in a second column; the full form of a command puts it on
the next line and says what each policy does.
-/
namespace TemplateQuery.CommandLine

def programName : String := "liquid-jsonpath"

def versionText : String := programName ++ " 0.1.0\n"

namespace Argument

/-- What an argument is for, in help on a level. -/
def purpose (level : Level) : Argument → String
  | .settings => "Config file (default: ~/.config/liquid-jsonpath/config.toml)"
  | .data =>
    if level = .within .render then "JSON object to render with (omit to read from stdin if piped)"
    else "JSON document (omit to read from stdin if piped)"
  | .policy => "What a failed query produces (overrides the config file)"
  | .strict => "Fail on undefined values"
  | .pausing => "Render with the asynchronous renderer"
  | .template => "Template file"
  | .path => "JSONPath query, e.g. '$.users[?@.age > 21].name'"

/-- The spellings of an argument, with a place for its value. -/
def label (a : Argument) : String :=
  let place := a.value?.elim "" fun v => "<" ++ v ++ ">"
  match a.long? with
  | none => place
  | some long =>
    (match a.short? with
      | some letter => String.ofList ['-', letter, ',', ' ']
      | none => "    ")
      ++ "--" ++ long ++ (if place.isEmpty then "" else " " ++ place)

end Argument

def policies : List Policy := [.raise, .undefined, .empty]

def effect : Policy → String
  | .raise => "Report the failure as a template error"
  | .undefined => "Produce the engine's undefined marker"
  | .empty => "Produce an empty sequence"

namespace Command

def purpose : Command → String
  | .render => "Render a template file"
  | .query => "Apply a JSONPath query to a JSON document and print the matches"

end Command

/-- Two columns, the first as wide as its widest entry. -/
def columns (rows : List (String × String)) : String :=
  let width := (rows.map (·.1.length)).foldl max 0
  String.join (rows.map fun (left, right) =>
    "  " ++ left ++ String.ofList (List.replicate (width - left.length) ' ') ++ "  " ++ right ++ "\n")

/-- Entries with their text below them. -/
def paragraphs (rows : List (String × String)) : String :=
  "\n".intercalate (rows.map fun (left, right) => "  " ++ left ++ "\n          " ++ right ++ "\n")

def optionRows (level : Level) (full : Bool) : List (String × String) :=
  let text := fun (a : Argument) =>
    if a != .policy then a.purpose level
    else if full then
      let width := (policies.map (·.name.length)).foldl max 0
      a.purpose level ++ "\n\n          Possible values:" ++ String.join (policies.map fun p =>
        "\n          - " ++ p.name ++ ":" ++ String.ofList (List.replicate (width - p.name.length) ' ') ++ " "
          ++ effect p)
    else a.purpose level ++ " [possible values: " ++ ", ".intercalate (policies.map Policy.name) ++ "]"
  let help := match level, full with
    | .top, _ => "Print help"
    | _, true => "Print help (see a summary with '-h')"
    | _, false => "Print help (see more with '--help')"
  level.options.map (fun a => (a.label, text a)) ++ [("-h, --help", help)]
    ++ (if level = .top then [("-V, --version", "Print version")] else [])

def helpPurpose : String := "Print this message or the help of the given subcommand(s)"

def helpText (full : Bool) : Level → String
  | .top =>
    "Render templates that query JSON with JSONPath\n\nUsage: " ++ programName ++ " [OPTIONS] <COMMAND>\n\nCommands:\n"
      ++ columns (([Command.render, .query].map fun c => (c.name, c.purpose)) ++ [("help", helpPurpose)])
      ++ "\nOptions:\n" ++ columns (optionRows .top full)
  | .within command =>
    let level := Level.within command
    let layout := if full then paragraphs else columns
    let positional := level.positional?.toList.map fun a => (a.label, a.purpose level)
    command.purpose ++ "\n\nUsage: " ++ programName ++ " " ++ command.name ++ " [OPTIONS] "
      ++ " ".intercalate (positional.map (·.1)) ++ "\n\nArguments:\n" ++ layout positional
      ++ "\nOptions:\n" ++ layout (optionRows level full)

def Topic.text : Topic → String
  | .version => versionText
  | .help level full => helpText full level
  | .helpOnHelp =>
    helpPurpose ++ "\n\nUsage: " ++ programName ++ " help [COMMAND]...\n\nArguments:\n"
      ++ columns [("[COMMAND]...", "Print help for the subcommand(s)")]

end TemplateQuery.CommandLine
