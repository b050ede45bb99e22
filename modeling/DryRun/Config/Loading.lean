import DryRun.Config.Location
import DryRun.Config.Override
import DryRun.Config.Reading
import DryRun.Settings.File

/-!
# Loading the configuration

The configuration that is in force: the one in its file, or else the default one, behind the
settings and those of the settings file.
-/

namespace DryRun

namespace Config

/-- The path of the settings file. What stands there is the file of that name in the working
directory, or else in the nearest directory above that has one. -/
def settingsFile : Text := ".env".toList

/-- The settings together with those of the settings file. -/
def allSettings (settings : Settings) (files : Files) : Settings :=
  settings.withFile (files settingsFile)

/-- The configuration in force. -/
def load (settings : Settings) (files : Files) (home : Option Text := none) :
    Except Error Config := do
  let path := location settings home
  let config ← if files path = .missing then .ok default else ofFile path (files path)
  return config.override (allSettings settings files)

end Config

end DryRun
