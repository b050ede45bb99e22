import DryRun.Proofs.Arithmetic.Nesting
import DryRun.Proofs.Arithmetic.Written

/-!
# The grammar of arithmetic

Which token sequences are sentences, and what sentences have for a value: operators of one rank
associate to the left, and signs and parentheses each take one from the room of what they enclose.
The machine reads every phrase that has a value (`Denotes.reached`), and by itself fails on one
whose outermost operator fails (`run_joined_of_error`).
-/

namespace DryRun

namespace Operator

open Arithmetic (Level)

/-- The level of what an operator joins, and of its left operand. -/
def level : Operator → Level
  | multiply | divide => .product
  | add | subtract => .sum

/-- The level of the right operand of an operator. -/
def tighter : Operator → Level
  | multiply | divide => .operand
  | add | subtract => .product

end Operator

namespace Arithmetic

/-! ## Phrases -/

/-- The token of a sign. -/
def signToken (negative : Bool) : Token := .operator (if negative then .subtract else .add)

/-- The token sequences of a level. -/
inductive Phrase : Level → List Token → Prop
  | literal (value : Value) : Phrase .operand [.literal value]
  | name (name : Text) : Phrase .operand [.name name]
  | call (text : Text) : Phrase .operand [.call text]
  | signed (negative : Bool) {tokens : List Token} (h : Phrase .operand tokens) :
      Phrase .operand (signToken negative :: tokens)
  | grouped {tokens : List Token} (h : Phrase .sum tokens) :
      Phrase .operand (.opening :: (tokens ++ [.closing]))
  | joined (op : Operator) {left right : List Token} (hleft : Phrase op.level left)
      (hright : Phrase op.tighter right) : Phrase op.level (left ++ .operator op :: right)
  | product {tokens : List Token} (h : Phrase .operand tokens) : Phrase .product tokens
  | sum {tokens : List Token} (h : Phrase .product tokens) : Phrase .sum tokens

/-- The token sequences of whole expressions. -/
abbrev Sentence (tokens : List Token) : Prop := Phrase .sum tokens

theorem Phrase.sentence {level : Level} {tokens : List Token} (h : Phrase level tokens) :
    Sentence tokens := by
  cases level with
  | operand => exact h.product.sum
  | product => exact h.sum
  | sum => exact h

/-- A walk reads a phrase as one operand. -/
theorem Phrase.walk {level : Level} {tokens : List Token} (h : Phrase level tokens) (signs : Nat)
    (groups : List Nat) : (Place.operand signs groups).walk tokens = some (.operator groups) := by
  induction h generalizing signs groups with
  | literal value => rfl
  | name name => rfl
  | call text => rfl
  | signed negative h ih => cases negative <;> exact ih (signs + 1) groups
  | grouped h ih => exact Place.walk_append (ih 0 ((signs + 1) :: groups)) _
  | joined op hleft hright ihleft ihright =>
    exact (Place.walk_append (ihleft signs groups) _).trans (ihright 0 groups)
  | product h ih => exact ih signs groups
  | sum h ih => exact ih signs groups

/-- The value that a phrase has in a room; calls are evaluated in what signs and parentheses leave
of it. -/
inductive Denotes (scope : Scope) : Nat → Level → List Token → Value → Prop
  | literal (room : Nat) (value : Value) : Denotes scope room .operand [.literal value] value
  | name (room : Nat) {name : Text} {value : Value} (hvalue : scope.valueOf? name = some value) :
      Denotes scope room .operand [.name name] value
  | call {room : Nat} {text : Text} {value : Value} (hvalue : scope.call room text = .ok value) :
      Denotes scope room .operand [.call text] value
  | signed {room : Nat} {negative : Bool} {tokens : List Token} {value result : Value}
      (h : Denotes scope room .operand tokens value)
      (hresult : Operator.applySign negative value = .ok result) :
      Denotes scope (room + 1) .operand (signToken negative :: tokens) result
  | grouped {room : Nat} {tokens : List Token} {value : Value}
      (h : Denotes scope room .sum tokens value) :
      Denotes scope (room + 1) .operand (.opening :: (tokens ++ [.closing])) value
  | joined {room : Nat} {op : Operator} {left right : List Token} {a b result : Value}
      (hleft : Denotes scope room op.level left a)
      (hright : Denotes scope room op.tighter right b) (hresult : op.apply a b = .ok result) :
      Denotes scope room op.level (left ++ .operator op :: right) result
  | product {room : Nat} {tokens : List Token} {value : Value}
      (h : Denotes scope room .operand tokens value) : Denotes scope room .product tokens value
  | sum {room : Nat} {tokens : List Token} {value : Value}
      (h : Denotes scope room .product tokens value) : Denotes scope room .sum tokens value

theorem Denotes.phrase {scope : Scope} {room : Nat} {level : Level} {tokens : List Token}
    {value : Value} (h : Denotes scope room level tokens value) : Phrase level tokens := by
  induction h with
  | literal room value => exact .literal value
  | @name _ name => exact .name name
  | @call _ text => exact .call text
  | signed h hresult ih => exact .signed _ ih
  | grouped h ih => exact .grouped ih
  | joined hleft hright hresult ihleft ihright => exact .joined _ ihleft ihright
  | product h ih => exact .product ih
  | sum h ih => exact .sum ih

/-! ## Phrases on the stack -/

/-- Whether a phrase of a level may begin on a stack: products end in front of signs and products,
sums in front of all operators. -/
def Level.sits : Level → Stack → Bool
  | .product, .operand _ op :: _ => !op.isProduct
  | .product, .sign _ :: _ | .sum, .sign _ :: _ | .sum, .operand .. :: _ => false
  | _, _ => true

theorem settle_of_sits {stack : Stack} (h : Level.product.sits stack = true) (value : Value) :
    settle value stack = .ok (.after value stack) := by
  match stack with
  | [] | .group :: _ => rfl
  | .operand _ op :: _ =>
    rw [settle, if_neg (by simpa [Level.sits] using h)]
  | .sign _ :: _ => cases h

theorem sits_product_of_sits_sum {stack : Stack} (h : Level.sum.sits stack = true) :
    Level.product.sits stack = true := by
  match stack with
  | [] | .group :: _ => rfl
  | .operand .. :: _ | .sign _ :: _ => cases h

theorem closeSum_of_sits {stack : Stack} (h : Level.sum.sits stack = true) (value : Value) :
    closeSum value stack = .ok (value, stack) := by
  match stack with
  | [] | .group :: _ => rfl
  | .operand .. :: _ | .sign _ :: _ => cases h

/-- Where the machine stands behind a phrase with a value; a sum may have yet to be formed. -/
def Level.Reaches (level : Level) (value : Value) (stack : Stack)
    (reached : Except Obstacle State) : Prop :=
  match level with
  | .operand | .product => reached = settle value stack
  | .sum => ∃ value' stack', reached = .ok (.after value' stack') ∧
      closeSum value' stack' = .ok (value, stack)

section Joined

variable {op : Operator} {a b : Value} {stack : Stack} {reached : Except Obstacle State}

theorem sits_tighter (op : Operator) (a : Value) (stack : Stack) :
    op.tighter.sits (.operand a op :: stack) = true := by
  cases op <;> rfl

theorem step_of_closeSum {value sum : Value} {below : Stack} (hop : op.isProduct = false)
    (hclose : closeSum value stack = .ok (sum, below)) (scope : Scope) :
    step scope (.after value stack) (.operator op) = .ok (.before (.operand sum op :: below)) := by
  rw [step, readOperator, if_neg (Bool.eq_false_iff.1 hop), hclose]
  rfl

theorem step_of_reaches (hsits : op.level.sits stack = true) (h : op.level.Reaches a stack reached)
    (scope : Scope) :
    (do step scope (← reached) (.operator op)) = .ok (.before (.operand a op :: stack)) := by
  cases op with
  | multiply | divide =>
    rw [show reached = settle a stack from h, settle_of_sits hsits]
    rfl
  | add =>
    obtain ⟨value, stack', rfl, hclose⟩ := h
    exact step_of_closeSum (rfl : Operator.isProduct .add = false) hclose scope
  | subtract =>
    obtain ⟨value, stack', rfl, hclose⟩ := h
    exact step_of_closeSum (rfl : Operator.isProduct .subtract = false) hclose scope

theorem reaches_of_apply {result : Value} (hsits : op.level.sits stack = true)
    (h : op.tighter.Reaches b (.operand a op :: stack) reached)
    (hresult : op.apply a b = .ok result) : op.level.Reaches result stack reached := by
  cases op with
  | multiply | divide =>
    show reached = settle result stack
    rw [show reached = settle b _ from h, settle, if_pos (by rfl), hresult]
    rfl
  | add | subtract =>
    refine ⟨b, _, h, ?_⟩
    rw [closeSum, hresult]
    rfl

theorem finish_of_apply_error {obstacle : Obstacle}
    (h : op.tighter.Reaches b [.operand a op] reached) (hresult : op.apply a b = .error obstacle) :
    (do finish (← reached)) = .error obstacle := by
  cases op with
  | multiply | divide =>
    rw [show reached = settle b _ from h, settle, if_pos (by rfl), hresult]
    rfl
  | add | subtract =>
    rw [show reached = settle b _ from h, settle, if_neg (by decide)]
    show finish (.after b [.operand a _]) = _
    rw [finish, closeSum, hresult]
    rfl

end Joined

/-! ## Phrases with a value -/

theorem foldlM_single (scope : Scope) (state : State) (token : Token) :
    [token].foldlM (step scope) state = step scope state token :=
  bind_pure _

theorem enter_of_lt {scope : Scope} {stack : Stack} (hroom : stack.depth < scope.room)
    (frame : Frame) : enter scope frame stack = .ok (.before (frame :: stack)) :=
  if_pos hroom

theorem step_signToken {scope : Scope} {stack : Stack} (hroom : stack.depth < scope.room)
    (negative : Bool) :
    step scope (.before stack) (signToken negative) = .ok (.before (.sign negative :: stack)) := by
  cases negative <;> exact enter_of_lt hroom _

theorem step_opening {scope : Scope} {stack : Stack} (hroom : stack.depth < scope.room) :
    step scope (.before stack) .opening = .ok (.before (.group :: stack)) :=
  enter_of_lt hroom .group

/-- A closing parenthesis ends the group that the sum in front of it has come to. -/
theorem step_closing {scope : Scope} {stack below : Stack} {value sum : Value}
    (h : closeSum value stack = .ok (sum, .group :: below)) :
    step scope (.after value stack) .closing = settle sum below := by
  rw [step, readOperator, h]
  · rfl
  · intro op hop
    cases hop

theorem foldlM_joined {scope : Scope} {left right : List Token} {op : Operator} {a : Value}
    {stack : Stack} (hsits : op.level.sits stack = true)
    (h : op.level.Reaches a stack (left.foldlM (step scope) (.before stack))) :
    (left ++ .operator op :: right).foldlM (step scope) (.before stack) =
      right.foldlM (step scope) (.before (.operand a op :: stack)) := by
  have hstep := step_of_reaches hsits h scope
  rw [List.foldlM_append]
  simp only [List.foldlM_cons]
  rw [← bind_assoc, hstep]
  rfl

/-- The machine reads a phrase that has a value on every stack that the phrase may begin on. -/
theorem Denotes.reaches {scope : Scope} {room : Nat} {level : Level} {tokens : List Token}
    {value : Value} (h : Denotes scope room level tokens value) {stack : Stack}
    (hsits : level.sits stack = true) :
    level.Reaches value stack
      (tokens.foldlM (step { scope with room := stack.depth + room }) (.before stack)) := by
  induction h generalizing stack with
  | literal room value => exact foldlM_single _ _ _
  | name room hvalue =>
    refine (foldlM_single _ _ _).trans ?_
    rw [step, readOperand]
    dsimp only
    rw [hvalue]
  | @call room text value hvalue =>
    refine (foldlM_single _ _ _).trans ?_
    rw [step, readOperand]
    dsimp only
    rw [Nat.add_sub_cancel_left, hvalue]
    rfl
  | @signed room negative tokens value result h hresult ih =>
    have hreached := @ih (.sign negative :: stack) rfl
    have hroom : Stack.depth (.sign negative :: stack) + room = stack.depth + (room + 1) := by
      rw [Stack.depth_sign]
      omega
    rw [hroom] at hreached
    show (signToken negative :: tokens).foldlM _ _ = settle result stack
    rw [List.foldlM_cons, step_signToken (by show stack.depth < _; dsimp only; omega)]
    exact hreached.trans (by rw [settle, hresult]; rfl)
  | @grouped room tokens value h ih =>
    have hreached := @ih (.group :: stack) rfl
    have hroom : Stack.depth (.group :: stack) + room = stack.depth + (room + 1) := by
      rw [Stack.depth_group]
      omega
    rw [hroom] at hreached
    obtain ⟨sum, stack', hreached, hclose⟩ := hreached
    show (.opening :: (tokens ++ [.closing])).foldlM _ _ = settle value stack
    rw [List.foldlM_cons, step_opening (by show stack.depth < _; dsimp only; omega)]
    show (tokens ++ [Token.closing]).foldlM _ (State.before _) = _
    rw [List.foldlM_append, hreached]
    exact (foldlM_single _ _ _).trans (step_closing hclose)
  | @joined room op left right a b result hleft hright hresult ihleft ihright =>
    have hright := ihright (sits_tighter op a stack)
    rw [Stack.depth_operand] at hright
    rw [foldlM_joined hsits (ihleft hsits)]
    exact reaches_of_apply hsits hright hresult
  | product h ih => exact ih rfl
  | sum h ih =>
    have hproduct := sits_product_of_sits_sum hsits
    exact ⟨_, stack, (ih hproduct).trans (settle_of_sits hproduct _), closeSum_of_sits hsits _⟩

/-! ## Phrases without a value -/

section Failures

variable {scope : Scope} {room : Nat} {cause : EvalError}

/-- A phrase whose outermost operator fails does so by itself. -/
theorem run_joined_of_error {op : Operator} {left right : List Token} {a b : Value}
    (hleft : Denotes scope room op.level left a) (hright : Denotes scope room op.tighter right b)
    (h : op.apply a b = .error (.error cause)) :
    run { scope with room := room } (left ++ .operator op :: right) = .error (.error cause) := by
  have hsits : op.level.sits [] = true := by cases op <;> rfl
  have hleft := hleft.reaches hsits
  have hright := hright.reaches (sits_tighter op a [])
  rw [Stack.depth_operand] at hright
  rw [show Stack.depth [] + room = room from Nat.zero_add room] at hleft hright
  rw [run, foldlM_joined hsits hleft]
  exact finish_of_apply_error hright h

theorem run_signed_of_error {negative : Bool} {tokens : List Token} {value : Value}
    {obstacle : Obstacle} (h : Denotes scope room .operand tokens value)
    (hsign : Operator.applySign negative value = .error obstacle) :
    run { scope with room := room + 1 } (signToken negative :: tokens) = .error obstacle := by
  have hreached : Level.operand.Reaches value [.sign negative] _ := h.reaches rfl
  have hdepth : Stack.depth [.sign negative] + room = room + 1 := Nat.add_comm 1 room
  have hroom : Stack.depth [] < room + 1 := Nat.succ_pos room
  rw [hdepth] at hreached
  rw [run, List.foldlM_cons, step_signToken hroom negative]
  show tokens.foldlM _ _ >>= finish = _
  rw [show tokens.foldlM _ _ = settle value _ from hreached, settle, hsign]
  rfl

theorem run_call_of_error {text : Text} (h : scope.call room text = .error (.error cause)) :
    run { scope with room := room } [.call text] = .error (.error cause) := by
  have hstep : step { scope with room := room } (.before []) (.call text) =
      .error (.error cause) := by
    rw [step, readOperand]
    show (do settle (← scope.call room text) []) = _
    rw [h]
    rfl
  rw [run, foldlM_single, hstep]
  rfl

end Failures

end Arithmetic

end DryRun
