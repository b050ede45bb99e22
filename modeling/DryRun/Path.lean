import DryRun.Text.Basic

/-!
# Paths

The last name in a path, its extension, and how a name is put behind a directory.
-/

namespace DryRun

namespace Path

/-- The names on a path; an empty name and a single point stand for the place itself. -/
def names (path : Text) : List Text :=
  (Text.pieces (· == '/') path).filter fun name => !name.isEmpty && name != ['.']

/-- The last name on a path, unless the path ends with a step upwards. -/
def fileName? (path : Text) : Option Text := (names path).getLast?.filter (· != ['.', '.'])

/-- What follows the last point in the last name on a path; a point at the beginning of the name
does not count. -/
def extension? (path : Text) : Option Text := do
  let (before, after) ← Text.splitLast? (· == '.') (← fileName? path)
  if before.isEmpty then none else some after

/-- Whether a path begins at the root. -/
def isAbsolute (path : Text) : Bool := path.head? = some '/'

/-- The path to a name in a directory. -/
def join (directory name : Text) : Text :=
  if directory.isEmpty || directory.getLast? = some '/' then directory ++ name
  else directory ++ '/' :: name

end Path

end DryRun
