import TemplateQuery.CommandLine.Run

/-! # The command line -/
namespace TemplateQuery.CommandLine

/-- The text of a file, unless it cannot be read. -/
def fileText (path : String) : IO (Option String) := do
  match ← (IO.FS.readFile path).toBaseIO with
  | .ok text => return some text
  | .error _ => return none

/-- The text that is piped in. -/
def inputText : IO (Option String) := do
  let input ← IO.getStdin
  if ← input.isTty then return none
  let text ← input.readToEnd
  return some text

def homeSettings : IO SettingsFile := do
  match ← IO.getEnv "HOME" with
  | none => return .absent
  | some home =>
    let text ← fileText (SettingsFile.path home)
    return text.elim .absent .text

def surroundings : Surroundings IO := ⟨fileText, inputText, homeSettings⟩

end TemplateQuery.CommandLine

open TemplateQuery.CommandLine in
/-- Prints what the command line asks for; the exit code is 1 for a fault and 2 for arguments that cannot be used. -/
def main (arguments : List String) : IO UInt32 := do
  match ← run surroundings arguments with
  | .printed text =>
    (← IO.getStdout).putStr text
    return 0
  | .failed fault =>
    (← IO.getStderr).putStr fault.report
    return 1
  | .misused =>
    (← IO.getStderr).putStr usageText
    return 2
