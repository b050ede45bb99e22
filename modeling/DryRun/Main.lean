import DryRun.CommandLine.Outcome

/-!
# Main program

Reads what the command line may need, prints its outcome, and ends with its exit code. Pauses count
in the times that are shown but are not waited for.
-/

namespace DryRun

namespace CommandLine

/-- What stands at a path. -/
def readState (path : Text) : IO FileState := do
  try
    return .text (← IO.FS.readFile (String.ofList path)).toList
  catch
    | .noFileOrDirectory .. => return .missing
    | _ => return .unreadable

/-- The variables of the process. -/
def readSettings : IO Settings := do
  let content ← IO.FS.readBinFile "/proc/self/environ"
  let entries := Text.pieces (· == '\x00') ((String.fromUTF8? content).getD "").toList
  return entries.filterMap (Text.splitFirst? (· == '='))

/-- What is read from standard input. -/
def readInput : IO FileState := do
  let content ← (← IO.getStdin).readBinToEnd
  match String.fromUTF8? content with
  | some text => return .text text.toList
  | none => return .unreadable

/-- The home directory that the system has for the user. -/
def readHome : IO (Option Text) := do
  let .text status ← readState "/proc/self/status".toList | return none
  let .text users ← readState "/etc/passwd".toList | return none
  let user? := (Text.pieces (· == '\n') status).findSome? fun line =>
    match Text.pieces (· == '\t') line with
    | name :: user :: _ => if name = "Uid:".toList then some user else none
    | _ => none
  return (Text.pieces (· == '\n') users).findSome? fun line =>
    match Text.pieces (· == ':') line with
    | [_, _, user, _, _, home, _] => if some user = user? then some home else none
    | _ => none

/-- The settings file of the working directory, or else of the nearest directory above. -/
def readSettingsFile : IO FileState := do
  let depth := (Path.names (← IO.currentDir).toString.toList).length
  for steps in List.range (depth + 1) do
    let upwards := (List.replicate steps "../".toList).flatten
    if let .text content ← readState (upwards ++ Config.settingsFile) then return .text content
  return .missing

/-- The files of code that a command reads. -/
def Command.codePaths : Command → List Text
  | .run (.file path) .. | .check (.file path) => [path]
  | _ => []

/-- Whether a command reads standard input. -/
def Command.readsInput : Command → Bool
  | .run .standardInput .. | .check .standardInput => true
  | _ => false

/-- What a command is run with, apart from time. -/
def readSurroundings (settings : Settings) (command : Option Command) : IO Surroundings := do
  let home ← readHome
  let paths := Config.location settings home :: command.elim [] Command.codePaths
  let states ← paths.mapM fun path => do return (path, ← readState path)
  let states := (Config.settingsFile, ← readSettingsFile) :: states
  let input ← if command.any Command.readsInput then readInput else pure .missing
  let files := fun path => (states.lookup path).getD .missing
  return { settings, files, input, spent := .zero, home }

/-- What a command line is run with; the time that an interpreter takes is that of a rehearsal,
which no budget ends. -/
def timed (arguments : List Text) (surroundings : Surroundings) : IO Surroundings := do
  let start ← IO.monoNanosNow
  if (outcome arguments surroundings).exitCode ≠ 0 then return surroundings
  let took : Duration := ⟨(← IO.monoNanosNow) - start⟩
  return { surroundings with spent := { Timing.zero with interpreting := took } }

/-- Prints the outcome of a command line and gives its exit code. -/
def runMain (arguments : List Text) : IO UInt32 := do
  let settings ← readSettings
  let command := (Command.ofArguments settings arguments).toOption
  let surroundings ← timed arguments (← readSurroundings settings command)
  let { output, exitCode, error } := outcome arguments surroundings
  IO.print (String.ofList output)
  if let some error := error then IO.eprintln ("Error: " ++ error.display)
  return exitCode.toUInt32

end CommandLine

end DryRun

def main (arguments : List String) : IO UInt32 :=
  DryRun.CommandLine.runMain (arguments.map String.toList)
