import DryRun.Proofs.Evaluation.Avoided
import DryRun.Proofs.Evaluation.Room

/-!
# Errors of operators

Apart from the limits, evaluation fails only where an operator does, and an operator is applied only
where its sign is written. So evaluation spares the errors of operators whose signs occur neither in
the expression nor in the functions that it may call (`evaluate_spares`).

1. Outcomes that spare an error, and how that passes through sequences of steps.
2. Arithmetic: on its stack the machine has only operators that it has read.
3. Expressions, by induction on the room for nesting.
-/

namespace DryRun

open Evaluation Expression

/-! ## Outcomes -/

section Outcomes

variable {ε α β : Type}

/-- Something of a kind, or an error other than the given one. -/
inductive Spares (spared : ε) (good : α → Prop) : Except ε α → Prop
  | ok {a : α} (h : good a) : Spares spared good (.ok a)
  | error {cause : ε} (h : cause ≠ spared) : Spares spared good (.error cause)

/-- Anything but the given error. -/
abbrev SparesError (spared : ε) (outcome : Except ε α) : Prop :=
  Spares spared (fun _ => True) outcome

namespace Spares

variable {spared : ε} {good : α → Prop} {outcome : Except ε α}

theorem ne_error (h : Spares spared good outcome) : outcome ≠ .error spared := by
  rintro rfl
  cases h with
  | error h => exact h rfl

theorem bind (h : Spares spared good outcome) {good' : β → Prop} {f : α → Except ε β}
    (hf : ∀ a, good a → Spares spared good' (f a)) : Spares spared good' (outcome >>= f) := by
  cases h with
  | ok h => exact hf _ h
  | error h => exact .error h

theorem mapM {f : β → Except ε α} {items : List β}
    (h : ∀ item ∈ items, SparesError spared (f item)) : SparesError spared (items.mapM f) := by
  induction items with
  | nil => exact .ok trivial
  | cons item rest ih =>
    rw [List.forall_mem_cons] at h
    rw [List.mapM_cons]
    exact h.1.bind fun _ _ => (ih h.2).bind fun _ _ => .ok trivial

theorem foldlM {f : α → β → Except ε α} {items : List β}
    (h : ∀ item ∈ items, ∀ a, good a → Spares spared good (f a item)) {a : α} (ha : good a) :
    Spares spared good (items.foldlM f a) := by
  induction items generalizing a with
  | nil => exact .ok ha
  | cons item rest ih =>
    rw [List.forall_mem_cons] at h
    rw [List.foldlM_cons]
    exact (h.1 a ha).bind fun a' ha' => ih h.2 ha'

end Spares

/-- No arithmetic is no error. -/
theorem spares_notArithmetic {cause : EvalError} {good : α → Prop} :
    Spares (Obstacle.error cause) good (.error .notArithmetic) :=
  .error nofun

end Outcomes

/-! ## Operators -/

/-- The operators that fail with an error. -/
def EvalError.operators : EvalError → List Operator
  | recursionLimit | parenthesesLimit => []
  | divisionByZero => [.divide]
  | sequenceTooLarge => [.add, .multiply]

namespace Operator

/-- The sign of an operator. -/
def sign : Operator → Char
  | add => '+'
  | subtract => '-'
  | multiply => '*'
  | divide => '/'

theorem eq_sign_of_ofChar? {c : Char} {op : Operator} (h : ofChar? c = some op) : c = op.sign := by
  unfold ofChar? at h
  split at h
  · cases h
    assumption
  · split at h
    · cases h
      assumption
    · split at h
      · cases h
        assumption
      · split at h
        · cases h
          assumption
        · cases h

variable {op : Operator} {cause : EvalError} (h : op ∉ cause.operators)

include h

theorem onNumbers_spares (left right : Value) :
    SparesError (Obstacle.error cause) (op.onNumbers left right) := by
  unfold onNumbers
  split
  · unfold onFloats
    split
    · exact .ok trivial
    · exact .ok trivial
    · exact .ok trivial
    · split
      · refine .error fun heq => h ?_
        cases heq
        decide
      · exact .ok trivial
  · exact spares_notArithmetic

/-- What sequences grow too large by is a sum or a product. -/
theorem sequenceTooLarge_ne (hop : op = .add ∨ op = .multiply) :
    Obstacle.error .sequenceTooLarge ≠ .error cause := by
  intro heq
  cases heq
  rcases hop with rfl | rfl
  · exact h (by decide)
  · exact h (by decide)

theorem apply_spares (left right : Value) :
    SparesError (Obstacle.error cause) (op.apply left right) := by
  have hrepeatText : op = .multiply → ∀ text times,
      SparesError (Obstacle.error cause) (repeatText text times) := by
    intro hop text times
    unfold repeatText
    split
    · exact .ok trivial
    · exact .error (sequenceTooLarge_ne h (.inr hop))
  have hrepeatList : op = .multiply → ∀ items times,
      SparesError (Obstacle.error cause) (repeatList items times) := by
    intro hop items times
    unfold repeatList
    split
    · exact .ok trivial
    · exact .error (sequenceTooLarge_ne h (.inr hop))
  unfold apply
  split
  · exact .ok trivial
  · exact .ok trivial
  · exact .ok trivial
  · split
    · exact .ok trivial
    · exact .error (sequenceTooLarge_ne h (.inl rfl))
  · split
    · exact .ok trivial
    · exact .error (sequenceTooLarge_ne h (.inl rfl))
  · exact hrepeatText rfl _ _
  · exact hrepeatText rfl _ _
  · exact hrepeatList rfl _ _
  · exact hrepeatList rfl _ _
  · exact onNumbers_spares h _ _

end Operator

theorem Operator.applySign_spares (cause : EvalError) (negative : Bool) (value : Value) :
    SparesError (Obstacle.error cause) (applySign negative value) := by
  unfold applySign
  split
  · split
    · exact .ok trivial
    · split
      · exact .ok trivial
      · exact spares_notArithmetic
  · exact .ok trivial
  · exact spares_notArithmetic

/-- A text in which no operator is written that fails with an error. -/
def EvalError.Foreign (cause : EvalError) (text : Text) : Prop :=
  ∀ op ∈ cause.operators, text.Avoids [op.sign]

theorem EvalError.Foreign.of_isInfix {cause : EvalError} {text part : Text}
    (h : cause.Foreign text) (hpart : part <:+: text) : cause.Foreign part :=
  fun op hop => (h op hop).of_isInfix hpart

/-! ## Arithmetic -/

namespace Token

theorem eq_cons_of_read? {text behind : Text} {op : Operator}
    (h : read? text = some (.operator op, behind)) : text = op.sign :: behind := by
  cases text with
  | nil => cases h
  | cons c rest =>
    rw [read?] at h
    split at h
    · obtain ⟨value, -, hparts⟩ := Option.map_eq_some_iff.1 h
      cases hparts
    · split at h
      · obtain ⟨literal, -, hparts⟩ := Option.map_eq_some_iff.1 h
        cases hparts
      · split at h
        · unfold nameOrCall? at h
          dsimp only at h
          split at h
          · obtain ⟨arguments, -, hparts⟩ := Option.map_eq_some_iff.1 h
            cases hparts
          · cases h
        · split at h
          · rename_i hop
            cases h
            rw [Operator.eq_sign_of_ofChar? hop]
          · split at h
            · cases h
            · split at h <;> cases h

/-- An operator among the tokens of a text has its sign there. -/
theorem isInfix_sign_of_mem_list? {text : Text} {op : Operator} {tokens : List Token}
    (h : list? text = some tokens) (hop : .operator op ∈ tokens) : [op.sign] <:+: text := by
  fun_induction list? text generalizing tokens with
  | case1 =>
    cases h
    cases hop
  | case2 c rest hblank ih => exact List.infix_cons (ih h hop)
  | case3 c rest hblank hread => cases h
  | case4 c rest hblank token behind hread ih =>
    obtain ⟨others, hothers, rfl⟩ := Option.map_eq_some_iff.1 h
    rcases List.mem_cons.1 hop with hfirst | hrest
    · rw [← hfirst] at hread
      rw [eq_cons_of_read? hread]
      exact (List.prefix_append [op.sign] behind).isInfix
    · exact (ih hothers hrest).trans (Reads.of_read? hread).isSuffix.isInfix

end Token

namespace Arithmetic

/-- A stack on which no operator waits that fails with an error. -/
def Stack.Spares (cause : EvalError) (stack : Stack) : Prop :=
  ∀ left op, .operand left op ∈ stack → op ∉ cause.operators

/-- A state of which the stack is such a stack. -/
def State.Spares (cause : EvalError) : State → Prop
  | .before stack => stack.Spares cause
  | .after _ stack => stack.Spares cause

section Steps

variable {cause : EvalError} {stack : Stack}

theorem Stack.Spares.nil : Stack.Spares cause [] := by
  intro left op hmem
  cases hmem

theorem Stack.Spares.cons (h : stack.Spares cause) {frame : Frame} (hframe : frame.nests = true) :
    Stack.Spares cause (frame :: stack) := by
  intro left op hmem
  rcases List.mem_cons.1 hmem with rfl | hrest
  · cases hframe
  · exact h left op hrest

theorem Stack.Spares.operand (h : stack.Spares cause) {op : Operator} (hop : op ∉ cause.operators)
    (left : Value) : Stack.Spares cause (.operand left op :: stack) := by
  intro left' op' hmem
  rcases List.mem_cons.1 hmem with hfirst | hrest
  · cases hfirst
    exact hop
  · exact h left' op' hrest

theorem Stack.Spares.tail {frame : Frame} (h : Stack.Spares cause (frame :: stack)) :
    stack.Spares cause :=
  fun left op hmem => h left op (List.mem_cons_of_mem _ hmem)

theorem settle_spares (h : stack.Spares cause) (value : Value) :
    Spares (.error cause) (State.Spares cause) (settle value stack) := by
  induction stack generalizing value with
  | nil => exact .ok h
  | cons frame stack ih =>
    cases frame with
    | sign negative =>
      rw [settle]
      exact (Operator.applySign_spares cause negative value).bind fun _ _ => ih h.tail _
    | operand left op =>
      rw [settle]
      split
      · exact (Operator.apply_spares (h left op List.mem_cons_self) left value).bind
          fun _ _ => ih h.tail _
      · exact .ok h
    | group => exact .ok h

theorem closeSum_spares (h : stack.Spares cause) (value : Value) :
    Spares (.error cause) (fun closed => Stack.Spares cause closed.2) (closeSum value stack) := by
  unfold closeSum
  split
  · rename_i left op stack
    exact (Operator.apply_spares (h left op List.mem_cons_self) left value).bind
      fun _ _ => .ok h.tail
  · exact .ok h

variable (hlimit : ¬ cause.IsLimit)

include hlimit

theorem enter_spares (scope : Scope) {frame : Frame} (h : Stack.Spares cause (frame :: stack)) :
    Spares (.error cause) (State.Spares cause) (enter scope frame stack) := by
  unfold enter
  split
  · exact .ok h
  · refine .error fun heq => hlimit ?_
    cases heq
    decide

variable {scope : Scope} {token : Token}

theorem readOperand_spares
    (hcall : ∀ called, token = .call called → ∀ room,
      SparesError (Obstacle.error cause) (scope.call room called))
    (h : stack.Spares cause) :
    Spares (.error cause) (State.Spares cause) (readOperand scope stack token) := by
  cases token with
  | literal value => exact settle_spares h value
  | name name =>
    rw [readOperand]
    split
    · exact settle_spares h _
    · exact spares_notArithmetic
  | call called => exact (hcall called rfl _).bind fun value _ => settle_spares h value
  | operator op =>
    cases op with
    | add => exact enter_spares hlimit scope (h.cons rfl)
    | subtract => exact enter_spares hlimit scope (h.cons rfl)
    | multiply => exact spares_notArithmetic
    | divide => exact spares_notArithmetic
  | opening => exact enter_spares hlimit scope (h.cons rfl)
  | closing => exact spares_notArithmetic

omit hlimit in
theorem readOperator_spares (htoken : ∀ op, token = .operator op → op ∉ cause.operators)
    (h : stack.Spares cause) (value : Value) :
    Spares (.error cause) (State.Spares cause) (readOperator value stack token) := by
  cases token with
  | operator op =>
    -- the only token that puts an operator on the stack, and it is among those that are read
    rw [readOperator]
    split
    · exact .ok (h.operand (htoken op rfl) value)
    · exact (closeSum_spares h value).bind fun closed hclosed =>
        .ok (hclosed.operand (htoken op rfl) _)
  | closing =>
    refine (closeSum_spares h value).bind fun closed hclosed => ?_
    dsimp only
    split
    · rename_i hstack
      rw [hstack] at hclosed
      exact settle_spares hclosed.tail _
    · exact spares_notArithmetic
  | literal value' => exact (closeSum_spares h value).bind fun _ _ => spares_notArithmetic
  | name name => exact (closeSum_spares h value).bind fun _ _ => spares_notArithmetic
  | call called => exact (closeSum_spares h value).bind fun _ _ => spares_notArithmetic
  | opening => exact (closeSum_spares h value).bind fun _ _ => spares_notArithmetic

theorem step_spares
    (hcall : ∀ called, token = .call called → ∀ room,
      SparesError (Obstacle.error cause) (scope.call room called))
    (htoken : ∀ op, token = .operator op → op ∉ cause.operators) {state : State}
    (h : state.Spares cause) :
    Spares (.error cause) (State.Spares cause) (step scope state token) := by
  cases state with
  | before stack => exact readOperand_spares hlimit hcall h
  | after value stack => exact readOperator_spares htoken h value

theorem run_spares {tokens : List Token}
    (hcall : ∀ called, .call called ∈ tokens → ∀ room,
      SparesError (Obstacle.error cause) (scope.call room called))
    (htokens : ∀ op, .operator op ∈ tokens → op ∉ cause.operators) :
    SparesError (.error cause) (run scope tokens) := by
  have hsteps : Spares (.error cause) (State.Spares cause)
      (tokens.foldlM (step scope) (.before [])) :=
    Spares.foldlM (fun token hmem state hstate => step_spares hlimit
      (fun called hcalled => hcall called (hcalled ▸ hmem))
      (fun op hop => htokens op (hop ▸ hmem)) hstate) Stack.Spares.nil
  refine hsteps.bind fun state hstate => ?_
  cases state with
  | before stack => exact spares_notArithmetic
  | after value stack =>
    refine (closeSum_spares hstate value).bind fun closed _ => ?_
    split
    · exact .ok trivial
    · exact spares_notArithmetic

theorem evaluate_spares {text : Text} (htext : cause.Foreign text)
    (hcall : ∀ called, called <:+: text → ∀ room,
      SparesError (Obstacle.error cause) (scope.call room called)) :
    SparesError cause (evaluate scope text) := by
  unfold evaluate
  split
  · exact .ok trivial
  · rename_i tokens htokens
    have hrun : SparesError (.error cause) (run scope tokens) :=
      run_spares hlimit (fun called hmem => hcall called (Token.isInfix_of_mem_list? htokens hmem))
        fun op hmem hop => htext op hop (Token.isInfix_sign_of_mem_list? htokens hmem)
    split
    · exact .ok trivial
    · exact .ok trivial
    · rename_i cause' heq
      refine .error fun hcause => hrun.ne_error ?_
      rw [heq, hcause]

end Steps

end Arithmetic

/-! ## Parts of expressions -/

namespace Evaluation

section Parts

variable {cause : EvalError} {f : Text → Except EvalError Value}

theorem mapM_splitItems_spares {text : Text}
    (h : ∀ part, part <:+: text → SparesError cause (f part)) :
    SparesError cause ((splitItems text).mapM f) :=
  .mapM fun item hitem => h item (isInfix_of_mem_splitItems hitem)

theorem fillTemplate_spares {template : Text}
    (h : ∀ part, part <:+: template → SparesError cause (f part)) :
    SparesError cause (fillTemplate f template) := by
  refine (Spares.mapM fun part hpart => ?_).bind fun _ _ => .ok trivial
  cases part with
  | char c => exact .ok trivial
  | placeholder inside =>
    have hinside : (Template.splitPlaceholder inside).1 <:+: template :=
      (Template.isPrefix_splitPlaceholder inside).isInfix.trans
        (Template.isInfix_of_mem_parts hpart)
    exact (h _ hinside).bind fun _ _ => .ok trivial

theorem bindParameters_spares {parameters : List Parameter}
    (h : ∀ parameter ∈ parameters, ∀ default, parameter.default = some default →
      SparesError cause (f default)) (locals : Environment) (values : List Value) :
    SparesError cause (bindParameters f locals parameters values) := by
  induction parameters generalizing locals values with
  | nil => exact .ok trivial
  | cons parameter rest ih =>
    rw [List.forall_mem_cons] at h
    cases values with
    | cons value others => exact ih h.2 _ others
    | nil =>
      rw [bindParameters]
      cases hdefault : parameter.default with
      | none => exact ih h.2 locals []
      | some default => exact (h.1 default hdefault).bind fun _ _ => ih h.2 _ []

end Parts

theorem runBody_spares {cause : EvalError} {f : Environment → Text → Except EvalError Value}
    {body : List Text}
    (h : ∀ line ∈ body, ∀ part, part <:+: line → ∀ env, SparesError cause (f env part))
    (locals : Environment) : SparesError cause (runBody f locals body) := by
  induction body generalizing locals with
  | nil => exact .ok trivial
  | cons line rest ih =>
    rw [List.forall_mem_cons] at h
    rw [runBody]
    cases hreturned : returned? (statementOf line) with
    | some expression =>
      exact h.1 _ ((isInfix_of_returned? hreturned).trans (isInfix_statementOf line)) locals
    | none =>
      cases hassignment : assignment? (statementOf line) with
      | none => exact ih h.2 locals
      | some assignment =>
        have hpart := (isInfix_of_assignment? hassignment).trans (isInfix_statementOf line)
        exact (h.1 _ hpart locals).bind fun _ _ => ih h.2 _

theorem operandCall_spares {cause : EvalError} {functions : Functions}
    {f : Nat → Text → Except EvalError Value} {room : Nat} {text : Text}
    (h : SparesError cause (f room text)) :
    SparesError (Obstacle.error cause) (operandCall functions f room text) := by
  unfold operandCall
  split
  · split
    · exact .ok trivial
    · rename_i cause' heq
      rw [heq] at h
      refine .error fun hcause => h.ne_error ?_
      rw [Obstacle.error.inj hcause]
  · exact spares_notArithmetic

end Evaluation

/-! ## Expressions -/

/-- **Errors are written.** Evaluation spares an error that no limit makes, unless the sign of an
operator that fails with it occurs in the expression or in a function that it may call. -/
theorem evaluate_spares {cause : EvalError} (hlimit : ¬ cause.IsLimit) {functions : Functions}
    (hfunctions : ∀ op ∈ cause.operators, ∀ function ∈ functions, function.Avoids [op.sign])
    (nesting calls : Nat) (env : Environment) {text : Text} (htext : cause.Foreign text) :
    SparesError cause (evaluate functions nesting calls env text) := by
  induction nesting using Nat.strongRecOn generalizing calls env text with
  | ind nesting ih =>
    obtain _ | nesting := nesting
    · rw [evaluate]
      exact .error fun heq => hlimit (heq ▸ by decide)
    have hbare : cause.Foreign (Text.trim text) := htext.of_isInfix (Text.isInfix_trim text)
    -- everything inside the expression has the smaller room
    have inner : ∀ {inside : Text}, inside <:+: Text.trim text → ∀ calls env, ∀ part,
        part <:+: inside → SparesError cause (evaluate functions nesting calls env part) :=
      fun hinside calls env part hpart => ih nesting (Nat.lt_succ_self nesting) calls env
        ((hbare.of_isInfix hinside).of_isInfix hpart)
    have hwithin := within_ofText functions (Text.trim text)
    rw [evaluate]
    dsimp only
    generalize Form.ofText functions (Text.trim text) = form at hwithin ⊢
    cases hwithin with
    | literal value => exact .ok trivial
    | template hinside =>
      exact (fillTemplate_spares (inner hinside calls env)).bind fun _ _ => .ok trivial
    | typeOf hinside =>
      exact (inner hinside calls env _ List.infix_rfl).bind fun _ _ => .ok trivial
    | lengthOf hinside =>
      exact (inner hinside calls env _ List.infix_rfl).bind fun _ _ => .ok trivial
    | @call function hfunction arguments hinside =>
      cases calls with
      | zero => exact .error fun heq => hlimit (heq ▸ by decide)
      | succ callsLeft =>
        have hdefault : ∀ parameter ∈ function.parameters, ∀ default,
            parameter.default = some default →
            SparesError cause (evaluate functions nesting (callsLeft + 1) env default) :=
          fun parameter hparameter default hsome => ih nesting (Nat.lt_succ_self nesting) _ _
            fun op hop =>
              (hfunctions op hop function hfunction).default parameter hparameter _ hsome
        have hbody : ∀ line ∈ function.body, ∀ part, part <:+: line → ∀ env,
            SparesError cause (evaluate functions nesting callsLeft env part) :=
          fun line hline part hpart env => ih nesting (Nat.lt_succ_self nesting) _ _
            fun op hop => ((hfunctions op hop function hfunction).body line hline).of_isInfix hpart
        exact (mapM_splitItems_spares (inner hinside _ env)).bind fun values _ =>
          (bindParameters_spares hdefault env values).bind fun locals _ =>
            runBody_spares hbody locals
    | list hinside =>
      exact (mapM_splitItems_spares (inner hinside calls env)).bind fun _ _ => .ok trivial
    | arithmetic =>
      -- a call among the operands has at most the room that is left here
      refine (Arithmetic.evaluate_spares hlimit hbare fun called hcalled room => ?_).bind
        fun _ _ => .ok trivial
      have hroom : min room nesting < nesting + 1 := by omega
      exact operandCall_spares (f := fun room => evaluate functions (min room nesting) calls env)
        (ih _ hroom calls env (hbare.of_isInfix hcalled))
    | name => exact .ok trivial

end DryRun
