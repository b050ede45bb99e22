import DryRun.Arithmetic.Token

/-!
# Evaluation of arithmetic

Arithmetic is evaluated from left to right by a machine with a stack of what still waits for a
value: signs, the left operands of operators, and open parentheses. Products are formed as soon as
their right operand is there, sums as soon as no product can follow. Signs and parentheses draw on a
room; the calls among the operands get what is left of it.
-/

namespace DryRun

namespace Arithmetic

/-- What waits for a value. -/
inductive Frame where
  | sign (negative : Bool)
  | operand (left : Value) (op : Operator)
  | group

/-- Whether a frame takes room. -/
def Frame.nests : Frame → Bool
  | .sign _ | .group => true
  | .operand .. => false

/-- What waits for a value, innermost first. -/
abbrev Stack := List Frame

/-- The room that a stack takes. -/
def Stack.depth (stack : Stack) : Nat := stack.countP Frame.nests

/-- Where the machine stands between two tokens. -/
inductive State where
  /-- An operand has to follow. -/
  | before (stack : Stack)
  /-- An operand is complete, with its value. -/
  | after (value : Value) (stack : Stack)

/-- What the operands of an expression stand for. -/
structure Scope where
  /-- How deep signs and parentheses may nest. -/
  room : Nat
  valueOf? : Text → Option Value
  /-- The value of a call in the room that is left. -/
  call : Nat → Text → Except Obstacle Value

/-- The state behind a value: signs and products on top of the stack take it. -/
def settle (value : Value) : Stack → Except Obstacle State
  | .sign negative :: stack => do settle (← Operator.applySign negative value) stack
  | .operand left op :: stack =>
    if op.isProduct then do settle (← op.apply left value) stack
    else .ok (.after value (.operand left op :: stack))
  | stack => .ok (.after value stack)

/-- The value and stack behind a sum: an operator on top of the stack takes the value. -/
def closeSum (value : Value) : Stack → Except Obstacle (Value × Stack)
  | .operand left op :: stack => do return (← op.apply left value, stack)
  | stack => .ok (value, stack)

/-- The state behind a frame that takes room, if there is any. -/
def enter (scope : Scope) (frame : Frame) (stack : Stack) : Except Obstacle State :=
  if stack.depth < scope.room then .ok (.before (frame :: stack))
  else .error (.error .parenthesesLimit)

/-- The state behind a token where an operand has to follow. -/
def readOperand (scope : Scope) (stack : Stack) : Token → Except Obstacle State
  | .literal value => settle value stack
  | .name name =>
    match scope.valueOf? name with
    | some value => settle value stack
    | none => .error .notArithmetic
  | .call text => do settle (← scope.call (scope.room - stack.depth) text) stack
  | .operator .subtract => enter scope (.sign true) stack
  | .operator .add => enter scope (.sign false) stack
  | .opening => enter scope .group stack
  | _ => .error .notArithmetic

/-- The state behind a token where an operand is complete. -/
def readOperator (value : Value) (stack : Stack) : Token → Except Obstacle State
  | .operator op =>
    if op.isProduct then .ok (.before (.operand value op :: stack))
    else do
      let (sum, stack) ← closeSum value stack
      .ok (.before (.operand sum op :: stack))
  | token => do
    let (sum, stack) ← closeSum value stack
    match token, stack with
    | .closing, .group :: stack => settle sum stack
    | _, _ => .error .notArithmetic

/-- The state behind a token. -/
def step (scope : Scope) : State → Token → Except Obstacle State
  | .before stack, token => readOperand scope stack token
  | .after value stack, token => readOperator value stack token

/-- The value at the end of the tokens. -/
def finish : State → Except Obstacle Value
  | .before _ => .error .notArithmetic
  | .after value stack => do
    match ← closeSum value stack with
    | (sum, []) => .ok sum
    | _ => .error .notArithmetic

/-- The value of tokens. -/
def run (scope : Scope) (tokens : List Token) : Except Obstacle Value := do
  finish (← tokens.foldlM (step scope) (.before []))

/-- The value of a text, if it is arithmetic. -/
def evaluate (scope : Scope) (text : Text) : Except EvalError (Option Value) :=
  match Token.list? text with
  | none => .ok none
  | some tokens =>
    match run scope tokens with
    | .ok value => .ok (some value)
    | .error .notArithmetic => .ok none
    | .error (.error cause) => .error cause

end Arithmetic

end DryRun
