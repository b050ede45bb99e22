import DryRun.Config.Basic
import DryRun.Duration.Units
import DryRun.Settings.Basic

/-!
# Overrides

Settings that take the place of values of the configuration. A setting whose text is no value of
its kind changes nothing.
-/

namespace DryRun

namespace Config

/-- The value of a setting, or a default if it has none. -/
def valueOr (settings : Settings) (name : String) (read? : Text → Option α) (default : α) : α :=
  (((settings.value? name).map Text.trim).bind read?).getD default

/-- The limits of execution behind the settings. -/
def overrideExecutor (settings : Settings) (executor : ExecutorConfig) : ExecutorConfig where
  defaultTimeout :=
    valueOr settings "FALLBACK_RUNNER_TIMEOUT" readFloat? executor.defaultTimeout
  memoryDelayCap :=
    valueOr settings "FALLBACK_RUNNER_MEMORY_DELAY_CAP" Duration.ofUnits? executor.memoryDelayCap
  loopDelayCap :=
    valueOr settings "FALLBACK_RUNNER_LOOP_DELAY_CAP" Duration.ofUnits? executor.loopDelayCap
  maxOutputBytes :=
    valueOr settings "FALLBACK_RUNNER_MAX_OUTPUT" readWord? executor.maxOutputBytes

/-- The limits of evaluation behind the settings. -/
def overrideInterpreter (settings : Settings) (limits : Evaluation.Limits) :
    Evaluation.Limits where
  calls := valueOr settings "FALLBACK_RUNNER_MAX_CALL_DEPTH" readWord? limits.calls
  nesting := valueOr settings "FALLBACK_RUNNER_MAX_NESTING" readWord? limits.nesting

/-- The configuration behind the settings. -/
def override (config : Config) (settings : Settings) : Config where
  executor := overrideExecutor settings config.executor
  interpreter := overrideInterpreter settings config.interpreter

end Config

end DryRun
