import DryRun.CommandLine.Command
import DryRun.CommandLine.Help
import DryRun.Config.Check
import DryRun.Config.Loading
import DryRun.Config.Writing
import DryRun.Exchange
import DryRun.Execution.Executor

/-!
# Outcomes

What a command line comes to: what it prints, the error it ends with, and the exit code.
-/

namespace DryRun

namespace CommandLine

/-- What a command line comes to. -/
structure Outcome where
  output : Text
  exitCode : Nat
  error : Option Error
  deriving DecidableEq, Repr

namespace Outcome

/-- The outcome without an error. -/
def done (output : Text) : Outcome := ⟨output, 0, none⟩

/-- The outcome with an error. -/
def failed (output : Text) (error : Error) : Outcome := ⟨output, 1, some error⟩

/-- The outcome of a command line without a command. -/
def stopped (settings : Settings) : Stop → Outcome
  | .help topic => done (pageOn settings topic).text
  | .version => done "fallback-runner 0.1.0\n".toList
  | .usage => ⟨[], 2, none⟩

/-- The outcome of what may fail before anything is printed. -/
def ofExcept : Except Error Text → Outcome
  | .ok output => done output
  | .error error => failed [] error

end Outcome

/-- A text on a line of its own. -/
def line (text : Text) : Text := text ++ ['\n']

/-! ## Results -/

/-- What is printed of a result, above the time that it took. -/
def resultBody (result : RunResult) : Text :=
  if let some diagnostic := result.syntaxErrorInfo then
    line ("✗ ".toList ++ diagnostic.kind.name.toList) ++ line diagnostic.render.toList
  else if let some message := result.memoryErrorMessage then
    line ("✗ Memory ".toList ++ message.toList)
  else if let some message := result.timeoutMessage then
    line ("✗ Timeout ".toList ++ message.toList)
  else if let some message := result.error then line ("✗ Error ".toList ++ message.toList)
  else if result.output.isEmpty then []
  else line result.output.toList

/-- What is printed of a result. -/
def resultLines (result : RunResult) : Text :=
  resultBody result ++
    line ("Time: ".toList ++ decimalDigits result.milliseconds ++ " ms".toList)

/-! ## Commands -/

/-- What a command line is run with. -/
structure Surroundings where
  settings : Settings
  files : Files
  /-- What is read from standard input. -/
  input : FileState
  /-- The time that running code takes, apart from pauses. -/
  spent : Timing
  /-- The home directory that the system has for the user. -/
  home : Option Text := none

/-- The code at its origin. -/
def readCode (surroundings : Surroundings) : CodeOrigin → Except Error Text
  | .argument code => .ok code
  | .file path =>
    match surroundings.files path with
    | .text code => .ok code
    | _ => .error (.invalidInput ("Failed to read " ++ String.ofList path))
  | .standardInput =>
    match surroundings.input with
    | .text code => .ok code
    | _ => .error (.io "stream did not contain valid UTF-8")

/-- The configuration in force. -/
def configIn (surroundings : Surroundings) : Except Error Config :=
  Config.load surroundings.settings surroundings.files surroundings.home

/-- What running code prints. -/
def runCode (surroundings : Surroundings) (origin : CodeOrigin) (language : Text)
    (timeout : Option Float) (asJson : Bool) : Except Error Text := do
  let code ← readCode surroundings origin
  let config ← configIn surroundings
  let request : Request :=
    { code := String.ofList code
      language := String.ofList language
      timeoutSeconds := timeout.getD config.executor.defaultTimeout }
  let interpret := Interpretation.ofProgram config.interpreter
  let result := execute config.executor interpret surroundings.spent request
  return if asJson then line result.write else resultLines result

/-- What checking code prints. -/
def checkCode (surroundings : Surroundings) (origin : CodeOrigin) : Except Error Text := do
  let code ← readCode surroundings origin
  return line (Report.ofSource (Source.ofText code)).toJson.pretty

/-- The outcome of showing the configuration at a path. -/
def showConfig (path : Text) (config : Config) : Outcome :=
  let title := line ("# ".toList ++ path)
  match config.writeToml with
  | .ok text => .done (title ++ line text)
  | .error error => .failed title error

/-- The lines of issues behind a mark. -/
def issueLines (mark : String) (issues : List Config.Issue) : Text :=
  issues.flatMap fun issue => line (mark.toList ++ ' ' :: issue.display.toList)

/-- The outcome of validating the configuration. -/
def validateConfig (config : Config) : Outcome :=
  let output := issueLines "✗" config.errors ++ issueLines "⚠" config.warnings
  if config.isValid then .done (output ++ line "✓ Configuration is valid".toList)
  else .failed output
    (.config (toString config.errors.length ++ " validation error(s)"))

/-- The outcome of a command. -/
def Command.outcome (surroundings : Surroundings) : Command → Outcome
  | .run origin language timeout asJson =>
    .ofExcept (runCode surroundings origin language timeout asJson)
  | .check origin => .ofExcept (checkCode surroundings origin)
  | .config validate =>
    match configIn surroundings with
    | .error error => .failed [] error
    | .ok found =>
      if validate then validateConfig found
      else
        let settings := Config.allSettings surroundings.settings surroundings.files
        showConfig (Config.location settings surroundings.home) found

/-- The outcome of a command line. -/
def outcome (arguments : List Text) (surroundings : Surroundings) : Outcome :=
  match Command.ofArguments surroundings.settings arguments with
  | .ok command => command.outcome surroundings
  | .error stop => .stopped surroundings.settings stop

end CommandLine

end DryRun
