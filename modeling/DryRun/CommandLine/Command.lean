import DryRun.CommandLine.Argument
import DryRun.Number.Reading
import DryRun.Settings.Basic

/-!
# Commands

What a command line asks for: to run code, to check it, or to show the configuration.
-/

namespace DryRun

namespace CommandLine

/-- Where the code of a command is. -/
inductive CodeOrigin where
  | argument (code : Text)
  | file (path : Text)
  | standardInput
  deriving DecidableEq, Repr

/-- What a command line asks for. -/
inductive Command where
  /-- To run code, perhaps within a budget of its own, and to show the result. -/
  | run (origin : CodeOrigin) (language : Text) (timeout : Option Float) (asJson : Bool)
  /-- To analyse code and show the report. -/
  | check (origin : CodeOrigin)
  /-- To show the configuration, or else what is wrong with it. -/
  | config (validate : Bool)

/-! ## Options -/

/-- Messages for the log in JSON. -/
def jsonLogs : Switch := ⟨"json-logs", none, "Emit logs as JSON", none⟩

/-- Code from a file. -/
def fileSwitch : Switch :=
  ⟨"file", some 'f', "Read the code from a file", some fun path => !path.isEmpty⟩

/-- The language of the code. -/
def languageSwitch : Switch := ⟨"language", some 'l', "Declared language", some fun _ => true⟩

/-- The language of code for which none is given. -/
def defaultLanguage : String := "python"

/-- The budget of time in seconds. -/
def timeoutSwitch : Switch :=
  ⟨"timeout", some 't', "Timeout in seconds (defaults to the configured timeout)",
    some fun text => (readFloat? text).isSome⟩

/-- The setting for the budget of time. -/
def timeoutSetting : String := "FALLBACK_RUNNER_TIMEOUT"

/-- The result in JSON. -/
def jsonSwitch : Switch := ⟨"json", none, "Print the raw result as JSON", none⟩

/-- What is wrong with the configuration. -/
def validateSwitch : Switch := ⟨"validate", none, "Validate instead of printing", none⟩

/-! ## Commands -/

/-- Where the code is; it is given in one place only. -/
def codeOrigin (given : Given) : Except Stop CodeOrigin :=
  match given.text, given.values.lookup fileSwitch.name with
  | some code, none => .ok (.argument code)
  | none, some path => .ok (.file path)
  | none, none => .ok .standardInput
  | some _, some _ => .error .usage

/-- The budget that is given, or else the one that is set. -/
def timeoutOf (settings : Settings) (given : Given) : Except Stop (Option Float) :=
  let set? := settings.value? timeoutSetting
  match (given.values.lookup timeoutSwitch.name).or set? with
  | none => .ok none
  | some text =>
    match readFloat? text with
    | some seconds => .ok (some seconds)
    | none => .error .usage

/-- The command to run code. -/
def runOf (settings : Settings) (arguments : List Text) : Except Stop Command := do
  let switches := [jsonLogs, fileSwitch, languageSwitch, timeoutSwitch, jsonSwitch]
  let given ← readArguments .run switches .nothing arguments
  let language := (given.values.lookup languageSwitch.name).getD defaultLanguage.toList
  return .run (← codeOrigin given) language (← timeoutOf settings given)
    (given.has jsonSwitch.name)

/-- The command to check code. -/
def checkOf (arguments : List Text) : Except Stop Command := do
  return .check (← codeOrigin (← readArguments .check [jsonLogs, fileSwitch] .nothing arguments))

/-- The command to show the configuration. -/
def configOf (arguments : List Text) : Except Stop Command := do
  let given ← readArguments .config [jsonLogs, validateSwitch] .nothing arguments
  if given.text.isSome then .error .usage else return .config (given.has validateSwitch.name)

/-- What arguments name to ask for help on. -/
def topicOf? : List Text → Option Topic
  | [] => some .program
  | [name] =>
    if name = "run".toList then some .run
    else if name = "check".toList then some .check
    else if name = "config".toList then some .config
    else if name = "help".toList then some .help
    else none
  | _ => none

/-- The end of a request for help. -/
def helpOn (arguments : List Text) : Stop := (topicOf? arguments).elim .usage .help

/-- The command of a name, with its arguments. -/
def commandOf (settings : Settings) (name : Text) (arguments : List Text) : Except Stop Command :=
  if name = "run".toList then runOf settings arguments
  else if name = "check".toList then checkOf arguments
  else if name = "config".toList then configOf arguments
  else .error (if name = "help".toList then helpOn arguments else .usage)

/-- Whether an argument asks for the version. -/
def asksForVersion : Argument → Bool
  | .long name none => name = "version".toList
  | .short letter _ => letter = 'V'
  | _ => false

/-- The command of a command line; `logged` says whether the option on the log has been given. -/
def commandFrom (settings : Settings) (logged : Bool) : List Text → Except Stop Command
  | [] => .error .usage
  | argument :: rest =>
    match Argument.ofText argument with
    | .text name => commandOf settings name rest
    | .terminator => .error .usage
    | named =>
      if named.asksForHelp then .error (.help .program)
      else if asksForVersion named then .error .version
      else if named = .long jsonLogs.name.toList none ∧ !logged then commandFrom settings true rest
      else .error .usage

/-- The command of a command line. -/
def Command.ofArguments (settings : Settings) (arguments : List Text) : Except Stop Command :=
  commandFrom settings false arguments

end CommandLine

end DryRun
