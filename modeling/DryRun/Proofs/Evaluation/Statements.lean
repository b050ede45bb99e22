import DryRun.Evaluation

/-!
# Lines with statements

What a body yields is settled by its lines that hold more than blanks and a comment; the others may
stand anywhere in it, or be left out.
-/

namespace DryRun

open Evaluation

/-- Whether a line has a statement. -/
def hasStatement (line : Text) : Bool := !(statementOf line).isEmpty

theorem hasStatement_eq_false_iff {line : Text} :
    hasStatement line = false ↔ statementOf line = [] := by
  unfold hasStatement
  rw [Bool.not_eq_false', List.isEmpty_iff]

/-- A body yields what its statements yield. -/
theorem runBody_filter (evaluate : Environment → Text → Except EvalError Value)
    (locals : Environment) (body : List Text) :
    runBody evaluate locals (body.filter hasStatement) = runBody evaluate locals body := by
  induction body generalizing locals with
  | nil => rfl
  | cons line rest ih =>
    by_cases hline : hasStatement line = true
    · rw [List.filter_cons_of_pos hline, runBody, runBody]
      simp only [ih]
    · have hempty := hasStatement_eq_false_iff.1 (Bool.eq_false_iff.2 hline)
      rw [List.filter_cons_of_neg hline, ih, runBody, hempty]
      rfl

/-- Bodies of the same statements yield the same. -/
theorem runBody_eq_of_filter_eq {body body' : List Text}
    (h : body'.filter hasStatement = body.filter hasStatement)
    (evaluate : Environment → Text → Except EvalError Value) (locals : Environment) :
    runBody evaluate locals body' = runBody evaluate locals body := by
  rw [← runBody_filter, h, runBody_filter]

end DryRun
