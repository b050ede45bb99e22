import DryRun.Text.Basic

/-!
# Sources

A submitted program as physical lines, numbered from one.
-/

namespace DryRun

/-- A program as its physical lines, without the line breaks. -/
structure Source where
  lines : List Text
  deriving DecidableEq

namespace Source

/-- The source of a program text. -/
def ofText (text : Text) : Source := ⟨Text.lines text⟩

/-- The number of lines. -/
def size (source : Source) : Nat := source.lines.length

/-- Whether every line is blank. -/
def isBlank (source : Source) : Bool := source.lines.all Text.isBlankText

/-- The line of a number, counting from one. -/
def line? (source : Source) : Nat → Option Text
  | 0 => none
  | number + 1 => source.lines[number]?

/-- The lines with their numbers. -/
def numbered (source : Source) : List (Text × Nat) := source.lines.zipIdx 1

end Source

end DryRun
