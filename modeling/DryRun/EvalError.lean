/-!
# Errors of evaluation

What evaluation cannot do. Text that is no expression is not among them: it has itself as its value.
-/

namespace DryRun

/-- Why an expression has no value. -/
inductive EvalError where
  /-- Expressions nest too deep, or too many calls wait for each other. -/
  | recursionLimit
  /-- Parentheses and signs nest too deep. -/
  | parenthesesLimit
  | divisionByZero
  | sequenceTooLarge
  deriving DecidableEq, Repr

namespace EvalError

/-- What the error says. -/
def message : EvalError → String
  | recursionLimit => "RecursionError: maximum recursion depth exceeded"
  | parenthesesLimit => "SyntaxError: too many nested parentheses"
  | divisionByZero => "ZeroDivisionError: division by zero"
  | sequenceTooLarge => "MemoryError: sequence result is too large"

end EvalError

end DryRun
