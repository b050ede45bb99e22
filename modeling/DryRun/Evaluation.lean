import DryRun.Arithmetic.Machine
import DryRun.Expression.Form
import DryRun.Expression.Template

/-!
# Evaluation

The value of an expression in an environment. Evaluation has two budgets: how deep expressions may
still nest, which every expression takes one of for what is inside it, and how many more calls may
wait for each other. A text that is no expression has itself as its value.
-/

namespace DryRun

open Unicode

/-! ## Statements -/

/-- The name and the value of an assignment. -/
def assignment? (line : Text) : Option (Text × Text) := do
  let (name, rest) ← identifier line
  let value ← Text.after? "=" (Text.trimStart rest)
  let shown := Text.trimStart value
  if value.isEmpty || value.head? = some '=' || shown.contains '\n' then none
  else some (name, shown)

/-- The expression of a `return`. -/
def returned? (line : Text) : Option Text := do
  let (_, expression) ← (Pattern.word "return" *> Pattern.blanks1) line
  if expression.isEmpty || expression.contains '\n' then none else some expression

/-- A line of a body without comment and margins. -/
def statementOf (line : Text) : Text := Text.trim (stripComment line)

namespace Evaluation

/-- How deep evaluation may go. -/
structure Limits where
  /-- How many calls of functions may wait for each other. -/
  calls : Nat
  /-- How deep expressions may nest. -/
  nesting : Nat
  deriving DecidableEq, Repr

/-! ## Calls -/

/-- The environment of a call: each parameter has its argument, or else the value of its default;
one with neither keeps the value that it has outside. -/
def bindParameters (evaluate : Text → Except EvalError Value) (locals : Environment) :
    List Parameter → List Value → Except EvalError Environment
  | [], _ => .ok locals
  | parameter :: parameters, value :: values =>
    bindParameters evaluate (locals.bind parameter.name value) parameters values
  | parameter :: parameters, [] =>
    match parameter.default with
    | none => bindParameters evaluate locals parameters []
    | some default => do
      let value ← evaluate default
      bindParameters evaluate (locals.bind parameter.name value) parameters []

/-- The value of a body: that of its first `return`, after the assignments before it. -/
def runBody (evaluate : Environment → Text → Except EvalError Value) (locals : Environment) :
    List Text → Except EvalError Value
  | [] => .ok .none
  | line :: rest =>
    match returned? (statementOf line) with
    | some expression => evaluate locals expression
    | none =>
      match assignment? (statementOf line) with
      | some (name, expression) => do
        let value ← evaluate locals expression
        runBody evaluate (locals.bind name value) rest
      | none => runBody evaluate locals rest

/-! ## Templates -/

/-- A part of a template as it is shown. -/
def fillPart (evaluate : Text → Except EvalError Value) : Template.Part → Except EvalError Text
  | .char c => .ok [c]
  | .placeholder text => do
    let (expression, places) := Template.splitPlaceholder text
    return Template.fill places (← evaluate expression)

/-- The text of a template. -/
def fillTemplate (evaluate : Text → Except EvalError Value) (template : Text) :
    Except EvalError Text := do
  return (← (Template.parts template).mapM (fillPart evaluate)).flatten

/-! ## Arithmetic -/

/-- The value of a call among the operands of arithmetic, if there is something to call. -/
def operandCall (functions : Functions) (evaluate : Nat → Text → Except EvalError Value)
    (room : Nat) (text : Text) : Except Obstacle Value :=
  if (Expression.callOf? functions text).isSome then
    match evaluate room text with
    | .ok value => .ok value
    | .error cause => .error (.error cause)
  else .error .notArithmetic

end Evaluation

open Evaluation

/-! ## Expressions -/

/-- The value of an expression. -/
def evaluate (functions : Functions) (nesting calls : Nat) (env : Environment) (text : Text) :
    Except EvalError Value :=
  match nesting with
  | 0 => .error .recursionLimit
  | nesting + 1 =>
    let expression := Text.trim text
    match Expression.Form.ofText functions expression with
    | .literal value => .ok value
    | .template template => do
      return .str (← fillTemplate (evaluate functions nesting calls env) template)
    | .typeOf argument => do
      let value ← evaluate functions nesting calls env argument
      return .str ("<class '" ++ value.typeName ++ "'>").toList
    | .lengthOf argument => do
      let value ← evaluate functions nesting calls env argument
      return .int value.length
    | .call function arguments =>
      match calls with
      | 0 => .error .recursionLimit
      | callsLeft + 1 => do
        let values ← (Expression.splitItems arguments).mapM
          (evaluate functions nesting (callsLeft + 1) env)
        let locals ← bindParameters (evaluate functions nesting (callsLeft + 1) env) env
          function.parameters values
        runBody (evaluate functions nesting callsLeft) locals function.body
    | .list contents => do
      return .list (← (Expression.splitItems contents).mapM (evaluate functions nesting calls env))
    | .arithmetic => do
      let scope : Arithmetic.Scope :=
        { room := nesting
          valueOf? := env.find?
          call := operandCall functions fun room =>
            evaluate functions (min room nesting) calls env }
      return (← Arithmetic.evaluate scope expression).getD (.str expression)
    | .name => .ok ((env.find? expression).getD (.str expression))
  termination_by nesting

end DryRun
