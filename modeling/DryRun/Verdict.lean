import DryRun.Loop
import DryRun.Memory
import DryRun.Rule

/-!
# Verdicts

What is found in a source before it runs. The stages are tried in the order syntax, memory, loops;
`Report.ofSource` gives the findings of all of them side by side.
-/

namespace DryRun

/-- The problem of a source with its syntax: by the rules for lines, or else by its brackets. -/
def checkSyntax (source : Source) : Option Diagnostic :=
  (Rule.check source).or ((Bracket.check source).map (·.toDiagnostic source))

/-- What keeps a source from running, if anything does. -/
inductive Verdict where
  | syntaxProblem (diagnostic : Diagnostic)
  | memoryProblem (finding : Allocation.Finding)
  | endlessLoop (finding : Loop.Finding)
  | clear
  deriving DecidableEq, Repr

/-- The verdict on a source: the finding of the first stage that has one. -/
def Verdict.ofSource (source : Source) : Verdict :=
  if source.isBlank then .clear
  else
    match checkSyntax source with
    | some diagnostic => .syntaxProblem diagnostic
    | none =>
      match Allocation.check source with
      | some finding => .memoryProblem finding
      | none =>
        match Loop.check source with
        | some finding => .endlessLoop finding
        | none => .clear

/-- The findings of every stage. -/
structure Report where
  syntaxProblem : Option Diagnostic
  memoryProblem : Option Allocation.Finding
  endlessLoop : Option Loop.Finding
  deriving DecidableEq, Repr

/-- The report on a source. -/
def Report.ofSource (source : Source) : Report where
  syntaxProblem := checkSyntax source
  memoryProblem := Allocation.check source
  endlessLoop := Loop.check source

end DryRun
