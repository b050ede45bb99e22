import Mathlib.Algebra.GroupWithZero.Nat
import DryRun.Arithmetic.Machine

/-!
# Nesting

How deep signs and parentheses nest in a sequence of tokens: a walk along the tokens tells how many
are open at each place, as far as every token may stand where it does (`nesting`). The machine
keeps the same count on its stack (`place_of_step`).
-/

namespace DryRun

namespace Arithmetic

/-! ## Depth -/

namespace Stack

theorem depth_sign (negative : Bool) (stack : Stack) :
    Stack.depth (.sign negative :: stack) = Stack.depth stack + 1 :=
  List.countP_cons_of_pos rfl

theorem depth_group (stack : Stack) : Stack.depth (.group :: stack) = Stack.depth stack + 1 :=
  List.countP_cons_of_pos rfl

theorem depth_operand (left : Value) (op : Operator) (stack : Stack) :
    Stack.depth (.operand left op :: stack) = Stack.depth stack :=
  List.countP_cons_of_neg Bool.false_ne_true

end Stack

/-! ## Places -/

/-- Where a walk along tokens stands; each open group counts with the signs in front of it. -/
inductive Place where
  /-- An operand has to follow, behind a number of signs. -/
  | operand (signs : Nat) (groups : List Nat)
  /-- An operand is complete. -/
  | operator (groups : List Nat)
  deriving DecidableEq

namespace Place

/-- The number of signs and parentheses that are open at a place. -/
def depth : Place → Nat
  | operand signs groups => signs + groups.sum
  | operator groups => groups.sum

/-- The place behind a token, if the token may stand there. -/
def next : Place → Token → Option Place
  | operand signs groups, .operator .add | operand signs groups, .operator .subtract =>
    some (operand (signs + 1) groups)
  | operand signs groups, .opening => some (operand 0 ((signs + 1) :: groups))
  | operand _ groups, .literal _ | operand _ groups, .name _ | operand _ groups, .call _ =>
    some (operator groups)
  | operator groups, .operator _ => some (operand 0 groups)
  | operator (_ :: groups), .closing => some (operator groups)
  | _, _ => none

/-- The place in front of all tokens. -/
def start : Place := operand 0 []

/-- The place behind tokens, if each may stand where it does. -/
def walk (place : Place) (tokens : List Token) : Option Place := tokens.foldlM next place

/-- The most signs and parentheses that are open from a place on, up to the first token that must
not stand where it does. -/
def deepest (place : Place) : List Token → Nat
  | [] => place.depth
  | token :: rest =>
    match place.next token with
    | none => place.depth
    | some place' => max place.depth (place'.deepest rest)

theorem walk_append {place place' : Place} {tokens : List Token}
    (h : place.walk tokens = some place') (rest : List Token) :
    place.walk (tokens ++ rest) = place'.walk rest := by
  unfold walk at h ⊢
  rw [List.foldlM_append, h]
  rfl

theorem depth_le_deepest (place : Place) (tokens : List Token) :
    place.depth ≤ place.deepest tokens := by
  cases tokens with
  | nil => exact Nat.le_refl _
  | cons token rest =>
    unfold deepest
    split
    · exact Nat.le_refl _
    · exact Nat.le_max_left _ _

theorem deepest_of_next {place place' : Place} {token : Token} (h : place.next token = some place')
    (rest : List Token) : place'.deepest rest ≤ place.deepest (token :: rest) := by
  rw [deepest, h]
  exact Nat.le_max_right _ _

theorem deepest_le_append (place : Place) (tokens rest : List Token) :
    place.deepest tokens ≤ place.deepest (tokens ++ rest) := by
  induction tokens generalizing place with
  | nil => exact depth_le_deepest place rest
  | cons token tokens ih =>
    rw [List.cons_append, deepest, deepest]
    cases place.next token with
    | none => exact Nat.le_refl _
    | some place' =>
      exact Nat.max_le.2 ⟨Nat.le_max_left _ _, Nat.le_trans (ih place') (Nat.le_max_right _ _)⟩

theorem deepest_of_walk {place place' : Place} {tokens : List Token}
    (h : place.walk tokens = some place') (rest : List Token) :
    place'.deepest rest ≤ place.deepest (tokens ++ rest) := by
  induction tokens generalizing place with
  | nil =>
    cases h
    exact Nat.le_refl _
  | cons token tokens ih =>
    rw [walk, List.foldlM_cons] at h
    obtain ⟨next, hnext, hwalk⟩ := Option.bind_eq_some_iff.1 h
    exact Nat.le_trans (ih hwalk) (deepest_of_next hnext _)

end Place

/-- How deep signs and parentheses nest in tokens, up to the first one that is out of place. -/
def nesting (tokens : List Token) : Nat := Place.start.deepest tokens

/-! ## Places of the machine -/

namespace Stack

/-- The signs on top of a stack. -/
def signs : Stack → Nat
  | .sign _ :: stack => signs stack + 1
  | _ => 0

/-- The open groups of a stack, each with the signs in front of it. -/
def groups : Stack → List Nat
  | [] => []
  | .group :: stack => (signs stack + 1) :: groups stack
  | .sign _ :: stack | .operand .. :: stack => groups stack

end Stack

/-- Where the machine stands. -/
def State.place : State → Place
  | before stack => .operand stack.signs stack.groups
  | after _ stack => .operator stack.groups

theorem groups_of_settle {value : Value} {stack : Stack} {state : State}
    (h : settle value stack = .ok state) : state.place = .operator stack.groups := by
  induction stack generalizing value with
  | nil =>
    cases h
    rfl
  | cons frame stack ih =>
    cases frame with
    | sign negative =>
      rw [settle] at h
      cases hsign : Operator.applySign negative value with
      | error obstacle =>
        rw [hsign] at h
        cases h
      | ok signed =>
        rw [hsign] at h
        exact ih h
    | operand left op =>
      rw [settle] at h
      split at h
      · cases hresult : op.apply left value with
        | error obstacle =>
          rw [hresult] at h
          cases h
        | ok result =>
          rw [hresult] at h
          exact ih h
      · cases h
        rfl
    | group =>
      cases h
      rfl

theorem groups_of_closeSum {value sum : Value} {stack stack' : Stack}
    (h : closeSum value stack = .ok (sum, stack')) : stack'.groups = stack.groups := by
  match stack with
  | .operand left op :: stack =>
    rw [closeSum] at h
    cases hresult : op.apply left value with
    | error obstacle =>
      rw [hresult] at h
      cases h
    | ok result =>
      rw [hresult] at h
      cases h
      rfl
  | [] | .sign _ :: _ | .group :: _ =>
    cases h
    rfl

theorem place_of_readOperand {scope : Scope} {stack : Stack} {token : Token} {state : State}
    (h : readOperand scope stack token = .ok state) :
    (State.before stack).place.next token = some state.place := by
  have henter : ∀ {frame}, enter scope frame stack = .ok state →
      state = .before (frame :: stack) := by
    intro frame h
    unfold enter at h
    split at h
    · exact (Except.ok.inj h).symm
    · cases h
  unfold readOperand at h
  split at h
  · exact congrArg some (groups_of_settle h).symm
  · split at h
    · exact congrArg some (groups_of_settle h).symm
    · cases h
  · rename_i text
    cases hcall : scope.call (scope.room - stack.depth) text with
    | error obstacle =>
      rw [hcall] at h
      cases h
    | ok value =>
      rw [hcall] at h
      exact congrArg some (groups_of_settle h).symm
  · rw [henter h]
    rfl
  · rw [henter h]
    rfl
  · rw [henter h]
    rfl
  · cases h

theorem place_of_readOperator {value : Value} {stack : Stack} {token : Token} {state : State}
    (h : readOperator value stack token = .ok state) :
    (State.after value stack).place.next token = some state.place := by
  unfold readOperator at h
  split at h
  · rename_i op
    split at h
    · cases h
      rfl
    · cases hclose : closeSum value stack with
      | error obstacle =>
        rw [hclose] at h
        cases h
      | ok closed =>
        obtain ⟨sum, stack'⟩ := closed
        rw [hclose] at h
        cases h
        show some (Place.operand 0 stack.groups) = some (.operand 0 stack'.groups)
        rw [groups_of_closeSum hclose]
  · cases hclose : closeSum value stack with
    | error obstacle =>
      rw [hclose] at h
      cases h
    | ok closed =>
      obtain ⟨sum, stack'⟩ := closed
      rw [hclose] at h
      dsimp only [bind, Except.bind] at h
      split at h
      · rename_i below
        show Place.next (.operator stack.groups) .closing = some state.place
        rw [← groups_of_closeSum hclose, groups_of_settle h]
        rfl
      · cases h

/-- The machine stands where the walk along its tokens does. -/
theorem place_of_step {scope : Scope} {state state' : State} {token : Token}
    (h : step scope state token = .ok state') : state.place.next token = some state'.place := by
  cases state with
  | before stack => exact place_of_readOperand h
  | after value stack => exact place_of_readOperator h

end Arithmetic

end DryRun
