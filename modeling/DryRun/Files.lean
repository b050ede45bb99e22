import DryRun.Text.Basic

/-!
# Files

What stands at a path, and the files that can be looked up.
-/

namespace DryRun

/-- What stands at a path. -/
inductive FileState where
  | missing
  /-- A directory, or a file that holds no text. -/
  | unreadable
  | text (content : Text)
  deriving DecidableEq, Repr

/-- What stands at each path. -/
abbrev Files := Text → FileState

end DryRun
