import DryRun.Path
import DryRun.Settings.Basic

/-!
# Where the configuration is

The directory and the file of the configuration, as the settings name them. Where they name no home
directory, it is the one that the system has for the user.
-/

namespace DryRun

namespace Config

/-- The home directory: the one that is set if its path is not empty, and otherwise the one that
the system has for the user. -/
def homeDirectory? (settings : Settings) (home : Option Text) : Option Text :=
  ((settings.value? "HOME").filter (!·.isEmpty)).or (home.filter (!·.isEmpty))

/-- The directory of the user's configuration files: the one that is set if its path is absolute,
and otherwise one in the home directory. -/
def userDirectory? (settings : Settings) (home : Option Text) : Option Text :=
  ((settings.value? "XDG_CONFIG_HOME").filter Path.isAbsolute).or
    ((homeDirectory? settings home).map (Path.join · ".config".toList))

/-- The directory of the configuration. -/
def directory (settings : Settings) (home : Option Text := none) : Text :=
  match settings.value? "FALLBACK_RUNNER_CONFIG_DIR" with
  | some directory => directory
  | none =>
    match userDirectory? settings home with
    | some directory => Path.join directory "fallback-runner".toList
    | none => ".fallback-runner".toList

/-- The file of the configuration. -/
def location (settings : Settings) (home : Option Text := none) : Text :=
  (settings.value? "FALLBACK_RUNNER_CONFIG").getD
    (Path.join (directory settings home) "config.toml".toList)

end Config

end DryRun
