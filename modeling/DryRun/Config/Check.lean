import DryRun.Config.Basic

/-!
# Checking the configuration

A configuration is valid if no limit keeps everything from running. Pauses that the budget of time
cuts short are only worth a warning.
-/

namespace DryRun

/-- Something wrong with a value of the configuration. -/
structure Config.Issue where
  /-- Where the value stands. -/
  path : String
  message : String
  suggestion : Option String
  deriving DecidableEq, Repr

namespace Config

/-- The text that is shown for an issue. -/
def Issue.display (issue : Issue) : String :=
  issue.path ++ ": " ++ issue.message ++
    match issue.suggestion with
    | some suggestion => " (" ++ suggestion ++ ")"
    | none => ""

/-! ## Errors -/

/-- Whether a number of seconds is finite and positive. -/
def isBudget (seconds : Float) : Bool := seconds.isFinite && 0 < seconds

/-- The issue with the budget of time. -/
def timeoutIssue (seconds : Float) : Issue where
  path := "executor.default_timeout_secs"
  message :=
    "Timeout must be a positive number of seconds, got " ++ String.ofList (floatText seconds)
  suggestion := some "Use the default of 30 seconds"

/-- The issue with a limit that shows no output. -/
def outputIssue : Issue where
  path := "executor.max_output_bytes"
  message := "Output limit of 0 bytes discards all output"
  suggestion := some "Set a limit of at least a few kilobytes"

/-- The issue with a limit that allows no call. -/
def callsIssue : Issue where
  path := "interpreter.max_call_depth"
  message := "Call depth of 0 makes every user function call fail"
  suggestion := some "Use the default of 64"

/-- The issue with a limit that allows no expression. -/
def nestingIssue : Issue where
  path := "interpreter.max_nesting"
  message := "Nesting limit of 0 rejects every expression"
  suggestion := some "Use the default of 200"

/-- An issue if there is one. -/
def issueIf (found : Bool) (issue : Issue) : List Issue := if found then [issue] else []

/-- The issues that make a configuration invalid. -/
def errors (config : Config) : List Issue :=
  let { executor, interpreter } := config
  issueIf (!isBudget executor.defaultTimeout) (timeoutIssue executor.defaultTimeout) ++
    issueIf (executor.maxOutputBytes = 0) outputIssue ++
    issueIf (interpreter.calls = 0) callsIssue ++
    issueIf (interpreter.nesting = 0) nestingIssue

/-- Whether a configuration is valid. -/
def isValid (config : Config) : Bool := config.errors.isEmpty

/-! ## Warnings -/

/-- The warning about a pause that the budget of time cuts short. -/
def delayWarning (path : String) (cap : Duration) : Issue where
  path := path
  message :=
    "Delay cap of " ++ cap.short ++ " exceeds the default timeout; the timeout will bound it"
  suggestion := none

/-- The issues that leave a configuration valid. -/
def warnings (config : Config) : List Issue :=
  let executor := config.executor
  let exceeds (cap : Duration) : Bool :=
    executor.defaultTimeout.isFinite && executor.defaultTimeout < cap.toSeconds
  issueIf (exceeds executor.memoryDelayCap)
      (delayWarning "executor.memory_delay_cap" executor.memoryDelayCap) ++
    issueIf (exceeds executor.loopDelayCap)
      (delayWarning "executor.loop_delay_cap" executor.loopDelayCap)

end Config

end DryRun
