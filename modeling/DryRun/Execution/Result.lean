import DryRun.Diagnostic
import DryRun.Duration.Basic

/-!
# Results

What running a request has come to. At most one of the three failures by which a submission is
stopped is flagged.
-/

namespace DryRun

/-- The result of a request. -/
structure RunResult where
  output : String
  /-- What has gone wrong apart from the three flagged failures. -/
  error : Option String
  timeout : Bool
  timeoutMessage : Option String
  memoryExceeded : Bool
  memoryErrorMessage : Option String
  syntaxError : Bool
  syntaxErrorInfo : Option Diagnostic
  /-- The time that was spent, in milliseconds. -/
  milliseconds : Nat
  deriving DecidableEq, Repr

namespace RunResult

/-- The result without output, errors and time. -/
def empty : RunResult where
  output := ""
  error := none
  timeout := false
  timeoutMessage := none
  memoryExceeded := false
  memoryErrorMessage := none
  syntaxError := false
  syntaxErrorInfo := none
  milliseconds := 0

/-- The result of code that has run. -/
def ofOutput (output : String) (spent : Duration) : RunResult :=
  { empty with output, milliseconds := spent.milliseconds }

/-- The result of code that could not be run. -/
def ofError (message : String) (spent : Duration) : RunResult :=
  { empty with error := some message, milliseconds := spent.milliseconds }

/-- The result of code that takes too long. -/
def ofTimeout (message : String) (spent : Duration) : RunResult :=
  { empty with
    timeout := true, timeoutMessage := some message, milliseconds := spent.milliseconds }

/-- The result of code that takes too much memory. -/
def ofMemory (message : String) (spent : Duration) : RunResult :=
  { empty with
    memoryExceeded := true, memoryErrorMessage := some message,
    milliseconds := spent.milliseconds }

/-- The result of code that is malformed. -/
def ofDiagnostic (diagnostic : Diagnostic) : RunResult :=
  { empty with syntaxError := true, syntaxErrorInfo := some diagnostic }

/-- Whether no failure is flagged and no error given. -/
def isSuccess (result : RunResult) : Bool :=
  result.error.isNone && !result.timeout && !result.memoryExceeded && !result.syntaxError

/-- The number of failures flagged. -/
def failureCount (result : RunResult) : Nat :=
  [result.syntaxError, result.memoryExceeded, result.timeout].count true

end RunResult

end DryRun
