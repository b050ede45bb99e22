import DryRun.Error
import DryRun.Evaluation

/-!
# Programs

A program is run line by line. Two statements do something: `print` adds a line to the output, and
an assignment binds a variable. Bodies of functions are passed over; they run when a function is
called.
-/

namespace DryRun

namespace Program

/-- The arguments of a `print` that the whole line is. -/
def printed? (line : Text) : Option Text := do
  let (_, rest) ← Pattern.word "print" line
  Text.beforeLast? ')' (← Text.after? "(" (Text.trimStart rest))

/-- The name, operator and right operand of an augmented assignment. -/
def augmented? (line : Text) : Option (Text × Operator × Text) := do
  let (name, rest) ← identifier line
  match Text.trimStart rest with
  | c :: '=' :: value =>
    let op ← Operator.ofChar? c
    let shown := Text.trimStart value
    if shown.isEmpty || shown.contains '\n' then none else some (name, op, shown)
  | _ => none

/-- A statement of a program. -/
inductive Statement where
  | print (arguments : Text)
  | augment (name : Text) (op : Operator) (expression : Text)
  | assign (name : Text) (expression : Text)
  /-- Any other line, which does nothing. -/
  | other
  deriving DecidableEq, Repr

/-- The statement of a line without comment and margins. -/
def Statement.ofLine (line : Text) : Statement :=
  if let some arguments := printed? line then .print arguments
  else if let some (name, op, expression) := augmented? line then .augment name op expression
  else if let some (name, expression) := assignment? line then .assign name expression
  else .other

/-- What a program has done so far. -/
structure State where
  env : Environment
  /-- The lines printed, the last first. -/
  printed : List Text
  /-- The indentation of the definition whose body is being passed over. -/
  definition : Option Nat

/-- The state before the first line. -/
def State.initial : State := { env := [], printed := [], definition := none }

/-- The variable behind an augmented assignment, if it has a value that the operator takes. -/
def augment (env : Environment) (name : Text) (op : Operator) (right : Value) :
    Except EvalError Environment :=
  match env.find? name with
  | none => .ok env
  | some left =>
    match op.apply left right with
    | .ok value => .ok (env.bind name value)
    | .error .notArithmetic => .ok env
    | .error (.error cause) => .error cause

/-- The state behind a statement. -/
def execute (evaluate : Environment → Text → Except EvalError Value) (state : State) :
    Statement → Except EvalError State
  | .print arguments => do
    let values ← (Expression.splitItems arguments).mapM (evaluate state.env)
    return { state with printed := Text.join [' '] (values.map Value.shown) :: state.printed }
  | .augment name op expression => do
    let right ← evaluate state.env expression
    return { state with env := ← augment state.env name op right }
  | .assign name expression => do
    return { state with env := state.env.bind name (← evaluate state.env expression) }
  | .other => .ok state

/-- Whether a line of the given indentation is in the body that is being passed over. -/
def State.passes (state : State) (indent : Nat) : Bool := state.definition.any (· < indent)

/-- The state behind a line. -/
def stepLine (evaluate : Environment → Text → Except EvalError Value) (state : State)
    (line : Text) : Except EvalError State :=
  let statement := statementOf line
  let indent := Text.indentation line
  if statement.isEmpty || state.passes indent then .ok state
  else if (Function.header? statement).isSome then .ok { state with definition := some indent }
  else execute evaluate { state with definition := none } (.ofLine statement)

/-- What a program prints, line by line. -/
def output (limits : Evaluation.Limits) (source : Source) : Except EvalError Text := do
  let evaluate := evaluate (Function.ofSource source) limits.nesting limits.calls
  let state ← source.lines.foldlM (stepLine evaluate) State.initial
  return Text.join ['\n'] state.printed.reverse

/-- What a program prints, unless it has been cancelled before its first line. -/
def run (limits : Evaluation.Limits) (cancelled : Bool) (source : Source) : Except Error Text :=
  if cancelled then .error (.timeout "execution cancelled")
  else (output limits source).mapError fun cause => .evaluation cause.message

end Program

end DryRun
