import DryRun.EvalError
import DryRun.Value

/-!
# Operators

The four operators on values. Integers stay integers as long as the result has a place in 64 bits,
and become floats beyond; division always yields a float. Texts and lists can be joined and
repeated up to a length.
-/

namespace DryRun

/-- Why an arithmetic expression yields no value. -/
inductive Obstacle where
  /-- The text is no arithmetic, or its operands do not fit. -/
  | notArithmetic
  | error (cause : EvalError)
  deriving DecidableEq, Repr

/-- The operators. -/
inductive Operator where
  | add
  | subtract
  | multiply
  | divide
  deriving DecidableEq, Repr

namespace Operator

/-- The operator of a sign. -/
def ofChar? (c : Char) : Option Operator :=
  if c = '+' then some add
  else if c = '-' then some subtract
  else if c = '*' then some multiply
  else if c = '/' then some divide
  else none

/-- Whether the operator binds its operands before sums do. -/
def isProduct : Operator → Bool
  | multiply | divide => true
  | add | subtract => false

/-! ## Sequences -/

/-- The length up to which texts and lists may grow. -/
def sequenceCap : Nat := 10000000

/-- A repetition that is under way. -/
structure Repetition (α : Type u) where
  /-- The rounds that have been made. -/
  rounds : Nat
  /-- What they have put together. -/
  items : List α

namespace Repetition

/-- The repetition before its first round. -/
def start : Repetition α := ⟨0, []⟩

/-- A round puts the items in front; what stands there by then are copies of them as well. -/
def round (items : List α) (made : Repetition α) : Repetition α :=
  ⟨made.rounds + 1, items ++ made.items⟩

/-- The rounds that are left, whatever there is to repeat. -/
def loop (items : List α) : Nat → Repetition α → Repetition α
  | 0, made => made
  | left + 1, made => loop items left (made.round items)

end Repetition

/-- Items repeated a number of times, with one round for each. -/
def repetition (times : Nat) (items : List α) : Repetition α := .loop items times .start

/-- Items repeated a number of times. -/
def copies (times : Nat) (items : List α) : List α := (repetition times items).items

/-- A text repeated; a negative number of times counts as none. -/
def repeatText (text : Text) (times : Int) : Except Obstacle Value :=
  if text.length * times.toNat ≤ sequenceCap then .ok (.str (copies times.toNat text))
  else .error (.error .sequenceTooLarge)

/-- A list repeated; a negative number of times counts as none. -/
def repeatList (items : List Value) (times : Int) : Except Obstacle Value :=
  if items.length * times.toNat ≤ sequenceCap then .ok (.list (copies times.toNat items))
  else .error (.error .sequenceTooLarge)

/-! ## Numbers -/

/-- The integer result of an operator, or else the float one. -/
def ofInts (exact : Int) (rounded : Float) : Value :=
  if inWord exact then .int exact else .float rounded

/-- An operator on floats. -/
def onFloats (op : Operator) (a b : Float) : Except Obstacle Value :=
  match op with
  | add => .ok (.float (a + b))
  | subtract => .ok (.float (a - b))
  | multiply => .ok (.float (a * b))
  | divide => if b == 0 then .error (.error .divisionByZero) else .ok (.float (a / b))

/-- An operator on values that are numbers. -/
def onNumbers (op : Operator) (left right : Value) : Except Obstacle Value :=
  match left.toFloat?, right.toFloat? with
  | some a, some b => op.onFloats a b
  | _, _ => .error .notArithmetic

/-! ## Values -/

/-- The result of an operator. -/
def apply (op : Operator) (left right : Value) : Except Obstacle Value :=
  match op, left, right with
  | add, .int a, .int b => .ok (ofInts (a + b) (Float.ofInt a + Float.ofInt b))
  | subtract, .int a, .int b => .ok (ofInts (a - b) (Float.ofInt a - Float.ofInt b))
  | multiply, .int a, .int b => .ok (ofInts (a * b) (Float.ofInt a * Float.ofInt b))
  | add, .str a, .str b =>
    if Text.byteSize a + Text.byteSize b ≤ sequenceCap then .ok (.str (a ++ b))
    else .error (.error .sequenceTooLarge)
  | add, .list a, .list b =>
    if a.length + b.length ≤ sequenceCap then .ok (.list (a ++ b))
    else .error (.error .sequenceTooLarge)
  | multiply, .str text, .int times | multiply, .int times, .str text => repeatText text times
  | multiply, .list items, .int times | multiply, .int times, .list items =>
    repeatList items times
  | op, left, right => op.onNumbers left right

/-- The value behind a sign. -/
def applySign (negative : Bool) : Value → Except Obstacle Value
  | .int n =>
    if !negative then .ok (.int n)
    else if inWord (-n) then .ok (.int (-n))
    else .error .notArithmetic
  | .float x => .ok (.float (if negative then -x else x))
  | _ => .error .notArithmetic

end Operator

end DryRun
