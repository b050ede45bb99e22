import DryRun.Config.Basic
import DryRun.Duration.Units
import DryRun.Error
import DryRun.Json.Writer
import DryRun.Path

/-!
# Writing the configuration

The text of a configuration in JSON and in TOML. JSON has no infinite numbers, so they are null
there; TOML has no integers beyond 64 bits with a sign, so a larger limit cannot be written.
-/

namespace DryRun

namespace Config

/-! ## JSON -/

/-- The limits of execution as a record. -/
def executorJson (executor : ExecutorConfig) : Json :=
  Json.record
    [("default_timeout_secs", .ofFloat executor.defaultTimeout),
     ("memory_delay_cap", .string (some executor.memoryDelayCap.inUnitsText)),
     ("loop_delay_cap", .string (some executor.loopDelayCap.inUnitsText)),
     ("max_output_bytes", .ofNat executor.maxOutputBytes)]

/-- The limits of evaluation as a record. -/
def interpreterJson (limits : Evaluation.Limits) : Json :=
  Json.record [("max_call_depth", .ofNat limits.calls), ("max_nesting", .ofNat limits.nesting)]

/-- The configuration as a record. -/
def toJson (config : Config) : Json :=
  Json.record
    [("executor", executorJson config.executor),
     ("interpreter", interpreterJson config.interpreter)]

/-! ## TOML -/

/-- A float; it always shows that it is one. -/
def tomlFloat (x : Float) : Text := if x.isNaN then "nan".toList else floatTextWithPoint x

/-- A natural number, if it has a place in 64 bits with a sign. -/
def tomlInteger? (n : Nat) : Option Text :=
  if n < Nat.pow 2 63 then some (decimalDigits n) else none

/-- A duration between quotes. -/
def tomlDuration (d : Duration) : Text := '"' :: d.inUnitsText ++ ['"']

/-- A line with a key and its value. -/
def keyLine (key : String) (value : Text) : Text := key.toList ++ " = ".toList ++ value ++ ['\n']

/-- The lines of the limits of execution. -/
def executorLines? (executor : ExecutorConfig) : Option Text := do
  return "[executor]\n".toList ++
    keyLine "default_timeout_secs" (tomlFloat executor.defaultTimeout) ++
    keyLine "memory_delay_cap" (tomlDuration executor.memoryDelayCap) ++
    keyLine "loop_delay_cap" (tomlDuration executor.loopDelayCap) ++
    keyLine "max_output_bytes" (← tomlInteger? executor.maxOutputBytes)

/-- The lines of the limits of evaluation. -/
def interpreterLines? (limits : Evaluation.Limits) : Option Text := do
  return "[interpreter]\n".toList ++
    keyLine "max_call_depth" (← tomlInteger? limits.calls) ++
    keyLine "max_nesting" (← tomlInteger? limits.nesting)

/-- The configuration in TOML. -/
def writeToml (config : Config) : Except Error Text :=
  let lines? := do
    return (← executorLines? config.executor) ++ '\n' :: (← interpreterLines? config.interpreter)
  match lines? with
  | some text => .ok text
  | none => .error (.config "Failed to serialize config")

/-- The text of the configuration for a file: JSON for a path with that extension, and TOML for all
others. -/
def write (path : Text) (config : Config) : Except Error Text :=
  if Path.extension? path = some "json".toList then .ok config.toJson.pretty
  else config.writeToml

end Config

end DryRun
