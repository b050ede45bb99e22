import DryRun.Text.Basic

/-!
# Settings

The environment variables that the program is started with, by name.
-/

namespace DryRun

/-- Environment variables and their values. -/
abbrev Settings := List (Text × Text)

namespace Settings

/-- The value of a variable. -/
def value? (settings : Settings) (name : String) : Option Text := settings.lookup name.toList

/-- The settings with those of others for the variables that are not set; of several values for one
variable the first counts. -/
def orElse (settings others : Settings) : Settings := settings ++ others

end Settings

end DryRun
