import DryRun.Proofs.Arithmetic.Grammar
import DryRun.Proofs.Evaluation.Counters

/-!
# Recursive descent

Arithmetic is a language of three levels, and can be read with one reader for each: operands join
to products and products to sums, and what a sign or a parenthesis encloses is read one level
deeper, which the parser counts. The readers take the front of the tokens and yield its value; the
machine, which has a stack in place of the levels, gets to the same value behind the same tokens,
or to the same error (`reads_descend`). The depth of its stack is the counter of the parser.

1. The readers.
2. How the machine goes on from a state.
3. Readers that agree with the machine: for operands, and for what operators join.
-/

namespace DryRun

open Evaluation Arithmetic

namespace Counted

/-! ## Readers -/

/-- Takes the front of the tokens, and yields its value and the tokens behind it. -/
abbrev Reader := List Token → Counted (Value × List Token)

/-- What the operands of arithmetic stand for. -/
structure Resolver where
  valueOf? : Text → Option Value
  call : Text → Counted Value

/-- The outcome of an operator. -/
def ofOutcome {α : Type} : Except Obstacle α → Counted α
  | .ok a => return a
  | .error obstacle => throw (.ofObstacle obstacle)

/-- A reader one level deeper, for what a sign or a parenthesis encloses. -/
def nested (limit : Nat) (inner : Reader) : Reader := fun tokens =>
  deeper .nested .parser limit .parenthesesLimit (inner tokens)

/-- Reads what stands behind a sign. -/
def signed (limit : Nat) (inner : Reader) (negative : Bool) : Reader := fun tokens => do
  let (value, rest) ← nested limit inner tokens
  return (← ofOutcome (Operator.applySign negative value), rest)

/-- Reads what stands behind an opening parenthesis, up to the closing one. -/
def grouped (limit : Nat) (inner : Reader) : Reader := fun tokens => do
  match ← nested limit inner tokens with
  | (value, .closing :: rest) => return (value, rest)
  | _ => throw .notArithmetic

/-- Reads one operand. -/
def operand (resolver : Resolver) (limit : Nat) (inner : Level → Reader) : Reader
  | .operator .subtract :: rest => signed limit (inner .operand) true rest
  | .operator .add :: rest => signed limit (inner .operand) false rest
  | .opening :: rest => grouped limit (inner .sum) rest
  | .literal value :: rest => return (value, rest)
  | .name name :: rest =>
    match resolver.valueOf? name with
    | some value => return (value, rest)
    | none => throw .notArithmetic
  | .call text :: rest => return (← resolver.call text, rest)
  | _ => throw .notArithmetic

/-- Whether an operator joins operands to what is of a level. -/
def joins : Level → Operator → Bool
  | .operand, _ => false
  | .product, op => op.isProduct
  | .sum, op => !op.isProduct

/-- Goes on behind a value as long as operators of a level follow, for a number of them. -/
def chain (level : Level) (inner : Reader) : Nat → Value → Reader
  | 0, _, _ => throw .unfinished
  | bound + 1, left, tokens =>
    match tokens with
    | .operator op :: rest =>
      if joins level op then do
        let (right, rest) ← inner rest
        chain level inner bound (← ofOutcome (op.apply left right)) rest
      else return (left, tokens)
    | _ => return (left, tokens)

/-- Reads what operators of a level join. -/
def joined (level : Level) (inner : Reader) : Reader := fun tokens => do
  let (left, rest) ← inner tokens
  chain level inner (rest.length + 1) left rest

/-- The reader of a level, for a number of levels of nesting. -/
def descend (resolver : Resolver) (limit : Nat) : Nat → Level → Reader
  | 0, _ => fun _ => throw .unfinished
  | levels + 1, level =>
    let operand := operand resolver limit (descend resolver limit levels)
    match level with
    | .operand => operand
    | .product => joined .product operand
    | .sum => joined .sum (joined .product operand)

/-- The value of tokens that are an expression as a whole. -/
def expression (resolver : Resolver) (limit : Nat) (tokens : List Token) : Counted Value := do
  match ← descend resolver limit (limit + 1) .sum tokens with
  | (value, []) => return value
  | _ => throw .notArithmetic

end Counted

/-! ## Going on from a state -/

namespace Arithmetic

/-- The value that the machine gets to from a state. -/
def runFrom (scope : Scope) (state : State) (tokens : List Token) : Except Obstacle Value := do
  finish (← tokens.foldlM (step scope) state)

section RunFrom

variable {scope : Scope} {value : Value} {stack : Stack} {rest : List Token}

theorem runFrom_cons (state : State) (token : Token) (rest : List Token) :
    runFrom scope state (token :: rest) =
      (do runFrom scope (← step scope state token) rest) := by
  rw [runFrom, List.foldlM_cons, bind_assoc]
  rfl

theorem runFrom_of_step {state state' : State} {token : Token}
    (h : step scope state token = .ok state') :
    runFrom scope state (token :: rest) = runFrom scope state' rest := by
  rw [runFrom_cons, h]
  rfl

theorem runFrom_of_step_error {state : State} {token : Token} {obstacle : Obstacle}
    (h : step scope state token = .error obstacle) :
    runFrom scope state (token :: rest) = .error obstacle := by
  rw [runFrom_cons, h]
  rfl

/-- Whether an operator stands outside of what is of a level. -/
def Level.excludes : Level → Operator → Bool
  | .operand, _ => true
  | .product, op => !op.isProduct
  | .sum, _ => false

/-- Whether what is of a level ends in front of the tokens. -/
def Level.Ends (level : Level) (rest : List Token) : Prop :=
  ∀ op behind, rest = .operator op :: behind → level.excludes op = true

theorem ends_operand (rest : List Token) : Level.operand.Ends rest := fun _ _ _ => rfl

/-- Behind a sum in parentheses there has to be the closing one. -/
theorem runFrom_group_closing :
    runFrom scope (.after value (.group :: stack)) (.closing :: rest) =
      (do runFrom scope (← settle value stack) rest) := by
  rw [runFrom_cons]
  rfl

theorem runFrom_group_of_ends (hends : Level.sum.Ends rest)
    (hclosing : ∀ rest', rest ≠ .closing :: rest') :
    runFrom scope (.after value (.group :: stack)) rest = .error .notArithmetic := by
  match rest with
  | [] => rfl
  | .operator _ :: _ => cases hends _ _ rfl
  | .closing :: rest => exact absurd rfl (hclosing rest)
  | .literal _ :: _ | .name _ :: _ | .call _ :: _ | .opening :: _ => exact runFrom_of_step_error rfl

section Sums

variable {left : Value} (hsits : Level.sum.sits stack = true)

include hsits

/-- A sum that waits for its right operand is formed where no product can follow. -/
theorem step_operand (op : Operator) {token : Token} (hends : Level.product.Ends (token :: rest)) :
    step scope (.after value (.operand left op :: stack)) token =
      (do step scope (.after (← op.apply left value) stack) token) := by
  have hclose := closeSum_of_sits hsits
  have hsum : ∀ op', token = .operator op' → op'.isProduct = false := by
    rintro op' rfl
    simpa [Level.excludes] using hends op' rest rfl
  cases hresult : op.apply left value with
  | error obstacle =>
    have hfails : closeSum value (.operand left op :: stack) = .error obstacle := by
      rw [closeSum, hresult]
      rfl
    rw [step, readOperator.eq_def]
    split
    · rw [if_neg (Bool.eq_false_iff.1 (hsum _ rfl)), hfails]
      rfl
    · rw [hfails]
      rfl
  | ok result =>
    have hcloses : closeSum value (.operand left op :: stack) = closeSum result stack := by
      rw [closeSum, hresult, hclose]
      rfl
    show _ = readOperator result stack token
    rw [step, readOperator.eq_def, readOperator.eq_def]
    split
    · have hop := Bool.eq_false_iff.1 (hsum _ rfl)
      rw [if_neg hop, if_neg hop, hcloses]
    · rw [hcloses]

theorem finish_operand (op : Operator) :
    finish (.after value (.operand left op :: stack)) =
      (do finish (.after (← op.apply left value) stack)) := by
  rw [finish, closeSum]
  cases op.apply left value with
  | error obstacle => rfl
  | ok result =>
    show _ = finish (.after result stack)
    rw [finish, closeSum_of_sits hsits]
    rfl

theorem runFrom_operand (op : Operator) (hends : Level.product.Ends rest) :
    runFrom scope (.after value (.operand left op :: stack)) rest =
      (do runFrom scope (.after (← op.apply left value) stack) rest) := by
  cases rest with
  | nil => exact finish_operand hsits op
  | cons token rest =>
    rw [runFrom_cons, step_operand hsits op hends]
    cases op.apply left value with
    | error obstacle => rfl
    | ok result =>
      show (do runFrom scope (← step scope (.after result stack) token) rest) =
        runFrom scope (.after result stack) (token :: rest)
      rw [runFrom_cons]

end Sums

/-- An operator that waits for its right operand is applied where no tighter one follows. -/
theorem runFrom_settle_operand {left : Value} {op : Operator} (hsits : op.level.sits stack = true)
    (hends : op.tighter.Ends rest) :
    (do runFrom scope (← settle value (.operand left op :: stack)) rest) =
      (do runFrom scope (.after (← op.apply left value) stack) rest) := by
  cases op with
  | multiply | divide =>
    rw [settle, if_pos (by rfl)]
    cases Operator.apply _ left value with
    | error obstacle => rfl
    | ok result =>
      show (do runFrom scope (← settle result stack) rest) = _
      rw [settle_of_sits hsits]
      rfl
  | add | subtract =>
    rw [settle, if_neg (by decide)]
    exact runFrom_operand hsits _ hends

/-- Behind the left operand of an operator the right one has to follow. -/
theorem step_operator_of_sits {left : Value} {op : Operator} (hsits : op.level.sits stack = true) :
    step scope (.after left stack) (.operator op) = .ok (.before (.operand left op :: stack)) := by
  cases op with
  | multiply | divide => rfl
  | add | subtract => exact step_of_closeSum (by rfl) (closeSum_of_sits hsits left) scope

/-- Behind a whole expression there is nothing. -/
theorem runFrom_nil_of_ends (hends : Level.sum.Ends rest) (hne : rest ≠ []) :
    runFrom scope (.after value []) rest = .error .notArithmetic := by
  match rest with
  | [] => exact absurd rfl hne
  | .operator _ :: _ => cases hends _ _ rfl
  | .literal _ :: _ | .name _ :: _ | .call _ :: _ | .opening :: _ | .closing :: _ =>
    exact runFrom_of_step_error rfl

end RunFrom

/-- The level of what the operators of a level join. -/
def Level.tighter : Level → Level
  | .sum => .product
  | .product | .operand => .operand

end Arithmetic

/-! ## Readers and the machine -/

namespace Counted

/-- A result is the outcome of arithmetic. -/
def Yields {α : Type} (outcome : Except Obstacle α) : Except Stop α → Prop
  | .ok a => outcome = .ok a
  | .error stop => ∃ obstacle, stop = .ofObstacle obstacle ∧ outcome = .error obstacle

/-- The value of what has an outcome of arithmetic, or none where it is no arithmetic. -/
def valueIfArithmetic {α : Type} : Except Obstacle α → Except EvalError (Option α)
  | .ok a => .ok (some a)
  | .error .notArithmetic => .ok none
  | .error (.error cause) => .error cause

theorem evaluate_of_list? {scope : Scope} {text : Text} {tokens : List Token}
    (h : Token.list? text = some tokens) :
    Arithmetic.evaluate scope text = valueIfArithmetic (Arithmetic.run scope tokens) := by
  rw [Arithmetic.evaluate, h]
  dsimp only
  rcases Arithmetic.run scope tokens with (_ | cause) | value <;> rfl

theorem yields_mapError {α : Type} (outcome : Except EvalError α) :
    Yields (outcome.mapError .error) (outcome.mapError .error) := by
  cases outcome with
  | ok a => rfl
  | error cause => exact ⟨.error cause, rfl, rfl⟩

/-- A result of a reader agrees with an outcome of the machine, which goes on from the value on the
given stack with the tokens that are left. -/
def Agrees (scope : Scope) (level : Level) (stack : Stack) (bound : Nat)
    (outcome : Except Obstacle Value) : Except Stop (Value × List Token) → Prop
  | .ok (value, rest) =>
    outcome = (do runFrom scope (← settle value stack) rest) ∧ level.Ends rest ∧
      rest.length < bound
  | .error stop => ∃ obstacle, stop = .ofObstacle obstacle ∧ outcome = .error obstacle

theorem Agrees.mono {scope : Scope} {level : Level} {stack : Stack} {bound bound' : Nat}
    {outcome : Except Obstacle Value} {result : Except Stop (Value × List Token)}
    (h : Agrees scope level stack bound outcome result) (hle : bound ≤ bound') :
    Agrees scope level stack bound' outcome result := by
  cases result with
  | ok read => exact ⟨h.1, h.2.1, h.2.2.trans_le hle⟩
  | error stop => exact h

/-- Operands stand for the same with counters, at each depth of the parser, and without. -/
structure Resolves (limits : Limits) (counters : Counters) (resolver : Resolver) (scope : Scope) :
    Prop where
  fit : limits.Fit
  nesting : counters.nesting + scope.room ≤ limits.nesting
  calls : counters.calls ≤ limits.calls
  valueOf?_eq : resolver.valueOf? = scope.valueOf?
  call : ∀ depth, depth ≤ scope.room → ∀ text,
    Leads limits (counters.set depth .parser) (resolver.call text)
      (Yields (scope.call (scope.room - depth) text))

/-- A reader agrees with the machine wherever what is of its level may begin, as long as the levels
that are left reach the limit. -/
def Reads (limits : Limits) (counters : Counters) (scope : Scope) (levels : Nat) (level : Level)
    (reader : Reader) : Prop :=
  ∀ (stack : Stack) (tokens : List Token), level.sits stack = true → stack.depth ≤ scope.room →
    scope.room < stack.depth + levels →
    Leads limits (counters.set stack.depth .parser) (reader tokens)
      (Agrees scope level stack tokens.length (runFrom scope (.before stack) tokens))

theorem level_of_joins {level : Level} {op : Operator} (h : joins level op = true) :
    op.level = level ∧ op.tighter = level.tighter := by
  cases level <;> cases op <;> first | exact ⟨rfl, rfl⟩ | cases h

theorem ends_of_joins {level : Level} {rest : List Token} (hends : level.tighter.Ends rest)
    (hjoins : ∀ op behind, rest = .operator op :: behind → joins level op = false) :
    level.Ends rest := by
  intro op behind hrest
  have hnot := hjoins op behind hrest
  cases level with
  | operand => rfl
  | product =>
    show (!op.isProduct) = true
    rw [show op.isProduct = false from hnot]
    rfl
  | sum =>
    have houtside : (!op.isProduct) = true := hends op behind hrest
    exact absurd houtside (Bool.eq_false_iff.1 hnot)

theorem sits_tighter_of_sits {level : Level} {stack : Stack} (h : level.sits stack = true) :
    level.tighter.sits stack = true := by
  cases level with
  | operand | product => rfl
  | sum => exact sits_product_of_sits_sum h

theorem settle_of_sits_of_ne {level : Level} {stack : Stack} (hlevel : level ≠ .operand)
    (h : level.sits stack = true) (value : Value) :
    settle value stack = .ok (.after value stack) := by
  cases level with
  | operand => exact absurd rfl hlevel
  | product => exact settle_of_sits h value
  | sum => exact settle_of_sits (sits_product_of_sits_sum h) value

section Readers

variable {limits : Limits} {counters : Counters}

theorem leads_ofOutcome {α : Type} (outcome : Except Obstacle α) :
    Leads limits counters (ofOutcome outcome) (Yields outcome) := by
  cases outcome with
  | ok a => exact .pure rfl
  | error obstacle => exact .throw ⟨obstacle, rfl, rfl⟩

theorem Leads.bind_of_yields {α β : Type} {x : Counted α} {f : α → Counted β}
    {outcome : Except Obstacle α} {post : Except Stop β → Prop}
    (hx : Leads limits counters x (Yields outcome))
    (hok : ∀ a, outcome = .ok a → Leads limits counters (f a) post)
    (herror : ∀ obstacle, outcome = .error obstacle → post (.error (.ofObstacle obstacle))) :
    Leads limits counters (x >>= f) post := by
  refine hx.bind hok fun stop hstop => ?_
  obtain ⟨obstacle, rfl, houtcome⟩ := hstop
  exact herror obstacle houtcome

theorem follows_ifArithmetic {α : Type} {x : Counted α} {outcome : Except Obstacle α}
    (hx : Leads limits counters x (Yields outcome)) :
    Follows limits counters (ifArithmetic x) (valueIfArithmetic outcome) := by
  refine Leads.ifArithmetic hx (fun a ha => ?_) (fun hnone => ?_) fun stop hstop herror => ?_
  · rw [show outcome = .ok a from ha]
    rfl
  · obtain ⟨_ | cause, heq, rfl⟩ := hnone
    · rfl
    · cases heq
  · obtain ⟨_ | cause, rfl, rfl⟩ := herror
    · exact absurd rfl hstop
    · rfl

/-! ### What operators join -/

section Joined

variable {scope : Scope} {levels : Nat} {level : Level} {inner : Reader} {stack : Stack}

/-- Behind a value that no operator follows, reading is done. -/
theorem agrees_of_ends (hlevel : level ≠ .operand) (hsits : level.sits stack = true) {bound : Nat}
    {tokens : List Token} (hends : level.Ends tokens) (hbound : tokens.length < bound)
    (value : Value) :
    Agrees scope level stack bound (runFrom scope (.after value stack) tokens)
      (.ok (value, tokens)) := by
  refine ⟨?_, hends, hbound⟩
  rw [settle_of_sits_of_ne hlevel hsits]
  rfl

/-- An operator of the level joins one more operand to the value in front of it. -/
theorem leads_operand (hinner : Reads limits counters scope levels level.tighter inner)
    (hsits : level.sits stack = true) (hroom : stack.depth ≤ scope.room)
    (hlevels : scope.room < stack.depth + levels) {op : Operator} (hjoins : joins level op = true)
    (left : Value) (rest : List Token) :
    Leads limits (counters.set stack.depth .parser) (inner rest) fun result =>
      match result with
      | .ok (right, rest') => level.tighter.Ends rest' ∧ rest'.length < rest.length ∧
        runFrom scope (.after left stack) (.operator op :: rest) =
          (do runFrom scope (.after (← op.apply left right) stack) rest')
      | .error stop => ∃ obstacle, stop = .ofObstacle obstacle ∧
        runFrom scope (.after left stack) (.operator op :: rest) = .error obstacle := by
  obtain ⟨rfl, htighter⟩ := level_of_joins hjoins
  have hdepth := Stack.depth_operand left op stack
  have hread := hinner (.operand left op :: stack) rest (htighter ▸ sits_tighter op left stack)
    (hdepth ▸ hroom) (hdepth ▸ hlevels)
  rw [hdepth] at hread
  rw [runFrom_of_step (step_operator_of_sits hsits)]
  refine hread.imp fun result hresult => ?_
  match result with
  | .ok (right, rest') =>
    obtain ⟨houtcome, hends, hlength⟩ := hresult
    rw [runFrom_settle_operand hsits (htighter ▸ hends)] at houtcome
    exact ⟨hends, hlength, houtcome⟩
  | .error stop => exact hresult

/-- The loop over the operators of a level, by induction on its bound. -/
theorem leads_chain (hinner : Reads limits counters scope levels level.tighter inner)
    (hlevel : level ≠ .operand) (hsits : level.sits stack = true)
    (hroom : stack.depth ≤ scope.room) (hlevels : scope.room < stack.depth + levels)
    {bound : Nat} (left : Value) {tokens : List Token} (hends : level.tighter.Ends tokens)
    (hbound : tokens.length < bound) :
    Leads limits (counters.set stack.depth .parser) (chain level inner bound left tokens)
      (Agrees scope level stack bound (runFrom scope (.after left stack) tokens)) := by
  induction bound generalizing left tokens with
  | zero => exact absurd hbound (Nat.not_lt_zero _)
  | succ bound ih =>
    rw [chain.eq_def]
    dsimp only
    split
    · rename_i op rest
      rw [List.length_cons] at hbound
      split
      · rename_i hjoins
        refine (leads_operand hinner hsits hroom hlevels hjoins left rest).bind ?_
          fun stop hstop => hstop
        rintro ⟨right, rest'⟩ ⟨hends', hlength, houtcome⟩
        refine (leads_ofOutcome _).bind_of_yields (fun result hresult => ?_)
          fun obstacle hobstacle => ?_
        · rw [hresult] at houtcome
          rw [houtcome]
          exact (ih result hends' (by omega)).imp fun _ h => h.mono (Nat.le_succ bound)
        · rw [hobstacle] at houtcome
          exact ⟨obstacle, rfl, houtcome⟩
      · rename_i hjoins
        refine .pure (agrees_of_ends hlevel hsits (ends_of_joins hends ?_) hbound left)
        rintro op' rest' ⟨⟩
        exact Bool.eq_false_iff.2 hjoins
    · rename_i hoperator
      exact .pure (agrees_of_ends hlevel hsits (ends_of_joins hends
        fun op rest h => absurd h (hoperator op rest)) hbound left)

theorem reads_joined (hinner : Reads limits counters scope levels level.tighter inner)
    (hlevel : level ≠ .operand) :
    Reads limits counters scope levels level (joined level inner) := by
  intro stack tokens hsits hroom hlevels
  refine (hinner stack tokens (sits_tighter_of_sits hsits) hroom hlevels).bind ?_
    fun stop hstop => hstop
  rintro ⟨left, rest⟩ ⟨houtcome, hends, hlength⟩
  rw [settle_of_sits_of_ne hlevel hsits] at houtcome
  replace houtcome : _ = runFrom scope (.after left stack) rest := houtcome
  rw [houtcome]
  exact (leads_chain hinner hlevel hsits hroom hlevels left hends (Nat.lt_succ_self _)).imp
    fun _ h => h.mono hlength

end Joined

/-! ### Operands -/

variable {resolver : Resolver} {scope : Scope} (h : Resolves limits counters resolver scope)

include h

theorem Resolves.within {depth : Nat} (hdepth : depth ≤ scope.room) :
    (counters.set depth .parser).Within limits :=
  ⟨(Nat.add_le_add_left hdepth _).trans h.nesting, h.calls⟩

section Operands

variable {levels : Nat} {inner : Reader} {stack : Stack} {tokens : List Token}
  (hlevels : scope.room < stack.depth + (levels + 1))

include hlevels

/-- What a sign or a parenthesis encloses is read on a stack with a frame for it. -/
theorem leads_nested {level : Level} {frame : Frame} {token : Token}
    (hinner : Reads limits counters scope levels level inner)
    (hsits : level.sits (frame :: stack) = true)
    (hdepth : Stack.depth (frame :: stack) = stack.depth + 1)
    (hstep : step scope (.before stack) token = enter scope frame stack) :
    Leads limits (counters.set stack.depth .parser) (nested scope.room inner tokens)
      (Agrees scope level (frame :: stack) tokens.length
        (runFrom scope (.before stack) (token :: tokens))) := by
  refine .deeper h.fit (fun hlimit => ?refused) (fun hlt => ?within) (fun hlt => ?read)
  case refused =>
    have hstep : step scope (.before stack) token = .error (.error .parenthesesLimit) :=
      hstep.trans (if_neg (Nat.not_lt.2 hlimit))
    exact ⟨_, rfl, runFrom_of_step_error hstep⟩
  case within =>
    show (counters.set (stack.depth + 1) .parser).Within limits
    exact h.within hlt
  case read =>
    have hstep : step scope (.before stack) token = .ok (.before (frame :: stack)) :=
      hstep.trans (if_pos hlt)
    have hread := hinner (frame :: stack) tokens hsits (hdepth ▸ hlt) (by omega)
    rw [hdepth] at hread
    rw [runFrom_of_step hstep]
    exact hread

theorem leads_signed (hinner : Reads limits counters scope levels .operand inner)
    (negative : Bool) :
    Leads limits (counters.set stack.depth .parser) (signed scope.room inner negative tokens)
      (Agrees scope .operand stack (tokens.length + 1)
        (runFrom scope (.before stack) (signToken negative :: tokens))) := by
  have hstep : step scope (.before stack) (signToken negative) =
      enter scope (.sign negative) stack := by cases negative <;> rfl
  refine (leads_nested h hlevels hinner rfl (Stack.depth_sign _ _) hstep).bind ?_
    fun stop hstop => hstop
  rintro ⟨value, rest⟩ ⟨houtcome, -, hlength⟩
  rw [settle] at houtcome
  refine (leads_ofOutcome _).bind_of_yields (fun result hresult => ?_) fun obstacle hobstacle => ?_
  · rw [hresult] at houtcome
    exact .pure ⟨houtcome, ends_operand _, hlength.trans (Nat.lt_succ_self _)⟩
  · rw [hobstacle] at houtcome
    exact ⟨obstacle, rfl, houtcome⟩

theorem leads_grouped (hinner : Reads limits counters scope levels .sum inner) :
    Leads limits (counters.set stack.depth .parser) (grouped scope.room inner tokens)
      (Agrees scope .operand stack (tokens.length + 1)
        (runFrom scope (.before stack) (.opening :: tokens))) := by
  refine (leads_nested h hlevels hinner rfl (Stack.depth_group _) rfl).bind ?_
    fun stop hstop => hstop
  rintro ⟨value, rest⟩ ⟨houtcome, hends, hlength⟩
  replace houtcome : _ = runFrom scope (.after value (.group :: stack)) rest := houtcome
  split
  · rename_i heq
    obtain ⟨rfl, rfl⟩ := Prod.mk.inj heq
    rw [List.length_cons] at hlength
    exact .pure ⟨houtcome.trans runFrom_group_closing, ends_operand _, by omega⟩
  · rename_i hclosing
    have hfails : runFrom scope (.after value (.group :: stack)) rest = .error .notArithmetic :=
      runFrom_group_of_ends hends fun rest' hrest => hclosing value rest' (by rw [hrest])
    exact .throw ⟨.notArithmetic, rfl, houtcome.trans hfails⟩

end Operands

/-- Operands by case: a sign, a parenthesis, or a token by itself. -/
theorem reads_operand {levels : Nat} {inner : Level → Reader}
    (hinner : ∀ level, Reads limits counters scope levels level (inner level)) :
    Reads limits counters scope (levels + 1) .operand (operand resolver scope.room inner) := by
  intro stack tokens _ hroom hlevels
  have hfails : ∀ {token : Token} {rest : List Token},
      step scope (.before stack) token = .error .notArithmetic →
      ∀ bound, Agrees scope .operand stack bound
        (runFrom scope (.before stack) (token :: rest)) (.error .notArithmetic) :=
    fun hstep _ => ⟨.notArithmetic, rfl, runFrom_of_step_error hstep⟩
  match tokens with
  | [] => exact .throw ⟨.notArithmetic, rfl, rfl⟩
  | .operator .subtract :: rest => exact leads_signed h hlevels (hinner .operand) true
  | .operator .add :: rest => exact leads_signed h hlevels (hinner .operand) false
  | .opening :: rest => exact leads_grouped h hlevels (hinner .sum)
  | .literal value :: rest => exact .pure ⟨runFrom_cons _ _ _, ends_operand _, Nat.lt_succ_self _⟩
  | .name name :: rest =>
    show Leads _ _ (match resolver.valueOf? name with
      | some value => return (value, rest)
      | none => throw .notArithmetic) _
    rw [h.valueOf?_eq]
    have hstep : step scope (.before stack) (.name name) =
        match scope.valueOf? name with
        | some value => settle value stack
        | none => .error .notArithmetic := rfl
    cases hvalue : scope.valueOf? name with
    | none =>
      rw [hvalue] at hstep
      exact .throw (hfails hstep _)
    | some value =>
      rw [hvalue] at hstep
      refine .pure ⟨?_, ends_operand _, Nat.lt_succ_self _⟩
      rw [runFrom_cons, hstep]
  | .call text :: rest =>
    have hstep : step scope (.before stack) (.call text) =
        (do settle (← scope.call (scope.room - stack.depth) text) stack) := rfl
    refine (h.call _ hroom text).bind_of_yields (fun value hvalue => ?_) fun obstacle hcall => ?_
    · rw [hvalue] at hstep
      refine .pure ⟨?_, ends_operand _, Nat.lt_succ_self _⟩
      rw [runFrom_cons, hstep]
      rfl
    · rw [hcall] at hstep
      exact ⟨obstacle, rfl, runFrom_of_step_error hstep⟩
  | .operator .multiply :: rest | .operator .divide :: rest | .closing :: rest =>
    exact .throw (hfails rfl _)

/-- As many levels as the limit has are enough. -/
theorem reads_descend (levels : Nat) (level : Level) :
    Reads limits counters scope levels level (descend resolver scope.room levels level) := by
  induction levels generalizing level with
  | zero => exact fun _ _ _ hroom hlevels => absurd hlevels (Nat.not_lt.2 hroom)
  | succ levels ih =>
    have hoperand := reads_operand h ih
    have hproduct : Reads limits counters scope (levels + 1) .product _ :=
      reads_joined hoperand (by simp)
    cases level with
    | operand => exact hoperand
    | product => exact hproduct
    | sum => exact reads_joined hproduct (by simp)

/-- An expression has the outcome that the machine has for it. -/
theorem leads_expression (tokens : List Token) :
    Leads limits (counters.set 0 .parser) (expression resolver scope.room tokens)
      (Yields (Arithmetic.run scope tokens)) := by
  have hread := reads_descend h (scope.room + 1) .sum [] tokens rfl (Nat.zero_le _)
    (Nat.lt_of_lt_of_le (Nat.lt_succ_self _) (Nat.le_add_left _ _))
  refine hread.bind ?_ fun stop hstop => hstop
  rintro ⟨value, rest⟩ ⟨houtcome, hends, -⟩
  replace houtcome : _ = runFrom scope (.after value []) rest := houtcome
  split
  · rename_i heq
    obtain ⟨rfl, rfl⟩ := Prod.mk.inj heq
    exact .pure houtcome
  · rename_i hrest
    have hfails : runFrom scope (.after value []) rest = .error .notArithmetic :=
      runFrom_nil_of_ends hends fun hnil => hrest value (by rw [hnil])
    exact .throw ⟨.notArithmetic, rfl, houtcome.trans hfails⟩

end Readers

end Counted

end DryRun
