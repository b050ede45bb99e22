import DryRun.Duration.Basic
import DryRun.Evaluation

/-!
# Configuration

The limits of execution and evaluation, with their defaults.
-/

namespace DryRun

/-- The limits of execution. -/
structure ExecutorConfig where
  /-- The budget of a request that carries none, in seconds. -/
  defaultTimeout : Float
  /-- The longest pause before an oversized allocation is reported. -/
  memoryDelayCap : Duration
  /-- The longest pause before a loop without end is reported. -/
  loopDelayCap : Duration
  /-- The most bytes of output that are shown. -/
  maxOutputBytes : Nat

/-- The configuration. -/
structure Config where
  executor : ExecutorConfig
  interpreter : Evaluation.Limits

namespace Config

/-- The limits of execution if nothing else is said. -/
def defaultExecutor : ExecutorConfig where
  defaultTimeout := 30
  memoryDelayCap := .ofMilliseconds 1000
  loopDelayCap := .ofMilliseconds 3000
  maxOutputBytes := 1024 * 1024

/-- The limits of evaluation if nothing else is said. -/
def defaultInterpreter : Evaluation.Limits where
  calls := 64
  nesting := 200

/-- The configuration if nothing else is said. -/
def default : Config where
  executor := defaultExecutor
  interpreter := defaultInterpreter

end Config

end DryRun
