import DryRun.Program

/-!
# More room

Limits end an evaluation early and do nothing else. `Extends` relates the outcomes of an evaluation
in less and in more room: they are the same, unless the first is an error that a limit makes.

1. The relation, and how it passes through sequences of steps.
2. Arithmetic: every step of the machine in a scope with more room extends the step in less.
3. Expressions, by induction on the room for nesting.
4. Statements and programs; `outcome_unchanged_of_more_room` is the result.
-/

namespace DryRun

variable {ε α β : Type}

/-! ## Outcomes in more room -/

instance decidableEqExcept [DecidableEq ε] [DecidableEq α] : DecidableEq (Except ε α)
  | .ok value, .ok value' =>
    decidable_of_iff (value = value') ⟨congrArg Except.ok, Except.ok.inj⟩
  | .error cause, .error cause' =>
    decidable_of_iff (cause = cause') ⟨congrArg Except.error, Except.error.inj⟩
  | .ok _, .error _ => isFalse nofun
  | .error _, .ok _ => isFalse nofun

theorem exists_of_bind_eq_ok {first : Except ε α} {next : α → Except ε β} {b : β}
    (h : first >>= next = .ok b) : ∃ a, first = .ok a ∧ next a = .ok b := by
  cases first with
  | error cause => cases h
  | ok a => exact ⟨a, rfl, h⟩

/-- The second outcome is the first, unless that is an error of the given kind. -/
inductive Extends (isCut : ε → Prop) : Except ε α → Except ε α → Prop
  | same (outcome : Except ε α) : Extends isCut outcome outcome
  | cut {cause : ε} (h : isCut cause) (outcome : Except ε α) : Extends isCut (.error cause) outcome

namespace Extends

variable {isCut : ε → Prop} {small large : Except ε α}

theorem eq_of_not_cut (h : Extends isCut small large)
    (hcut : ∀ cause, isCut cause → small ≠ .error cause) : large = small := by
  cases h with
  | same => rfl
  | cut hc => exact absurd rfl (hcut _ hc)

theorem bind {f g : α → Except ε β} (h : Extends isCut small large)
    (hf : ∀ a, Extends isCut (f a) (g a)) : Extends isCut (small >>= f) (large >>= g) := by
  cases h with
  | same =>
    cases small with
    | error cause => exact .same _
    | ok a => exact hf a
  | cut hc => exact .cut hc _

theorem mapM {f g : β → Except ε α} (h : ∀ b, Extends isCut (f b) (g b)) (items : List β) :
    Extends isCut (items.mapM f) (items.mapM g) := by
  induction items with
  | nil => exact .same _
  | cons item rest ih =>
    rw [List.mapM_cons, List.mapM_cons]
    exact (h item).bind fun _ => ih.bind fun _ => .same _

theorem foldlM {f g : α → β → Except ε α} (h : ∀ a b, Extends isCut (f a b) (g a b))
    (items : List β) (a : α) : Extends isCut (items.foldlM f a) (items.foldlM g a) := by
  induction items generalizing a with
  | nil => exact .same _
  | cons item rest ih =>
    rw [List.foldlM_cons, List.foldlM_cons]
    exact (h a item).bind fun a' => ih a'

end Extends

/-- The errors that a limit makes. -/
def EvalError.ofLimits : List EvalError := [recursionLimit, parenthesesLimit]

/-- Whether a limit makes the error. -/
abbrev EvalError.IsLimit (cause : EvalError) : Prop := cause ∈ ofLimits

/-- Whether a limit keeps arithmetic from a value. -/
def Obstacle.IsLimit (obstacle : Obstacle) : Prop :=
  ∃ cause : EvalError, cause.IsLimit ∧ obstacle = .error cause

namespace Arithmetic

/-! ## Arithmetic -/

/-- A scope with as much room as another, for itself and for its calls, and the same variables. -/
structure Scope.Widens (small large : Scope) : Prop where
  room_le : small.room ≤ large.room
  valueOf?_eq : large.valueOf? = small.valueOf?
  call_extends : ∀ {room room' : Nat}, room ≤ room' → ∀ text,
    Extends Obstacle.IsLimit (small.call room text) (large.call room' text)

section Steps

variable {small large : Scope} (h : Scope.Widens small large)

include h

theorem enter_extends (frame : Frame) (stack : Stack) :
    Extends Obstacle.IsLimit (enter small frame stack) (enter large frame stack) := by
  unfold enter
  by_cases hroom : stack.depth < small.room
  · rw [if_pos hroom, if_pos (Nat.lt_of_lt_of_le hroom h.room_le)]
    exact .same _
  · rw [if_neg hroom]
    exact .cut ⟨_, by decide, rfl⟩ _

theorem readOperand_extends (stack : Stack) (token : Token) :
    Extends Obstacle.IsLimit (readOperand small stack token) (readOperand large stack token) := by
  cases token with
  | literal value => exact .same _
  | name name =>
    unfold readOperand
    rw [h.valueOf?_eq]
    exact .same _
  | call text =>
    have hroom : small.room - stack.depth ≤ large.room - stack.depth :=
      Nat.sub_le_sub_right h.room_le _
    exact (h.call_extends hroom text).bind fun _ => .same _
  | operator op =>
    cases op with
    | add => exact enter_extends h _ stack
    | subtract => exact enter_extends h _ stack
    | multiply => exact .same _
    | divide => exact .same _
  | opening => exact enter_extends h _ stack
  | closing => exact .same _

theorem step_extends (state : State) (token : Token) :
    Extends Obstacle.IsLimit (step small state token) (step large state token) := by
  cases state with
  | before stack => exact readOperand_extends h stack token
  | after value stack => exact .same _

theorem run_extends (tokens : List Token) :
    Extends Obstacle.IsLimit (run small tokens) (run large tokens) :=
  (Extends.foldlM (step_extends h) tokens (.before [])).bind fun _ => .same _

theorem evaluate_extends (text : Text) :
    Extends EvalError.IsLimit (evaluate small text) (evaluate large text) := by
  unfold evaluate
  cases Token.list? text with
  | none => exact .same _
  | some tokens =>
    have hrun := run_extends h tokens
    dsimp only
    generalize run small tokens = outcome, run large tokens = outcome' at hrun ⊢
    cases hrun with
    | same => exact .same _
    | cut hc =>
      obtain ⟨cause, hcause, rfl⟩ := hc
      exact .cut hcause _

end Steps

end Arithmetic

/-! ## Expressions -/

namespace Evaluation

theorem bindParameters_extends {f g : Text → Except EvalError Value}
    (h : ∀ text, Extends EvalError.IsLimit (f text) (g text)) (locals : Environment)
    (parameters : List Parameter) (values : List Value) :
    Extends EvalError.IsLimit (bindParameters f locals parameters values)
      (bindParameters g locals parameters values) := by
  induction parameters generalizing locals values with
  | nil => exact .same _
  | cons parameter rest ih =>
    cases values with
    | cons value others => exact ih _ others
    | nil =>
      unfold bindParameters
      cases parameter.default with
      | none => exact ih locals []
      | some default => exact (h default).bind fun _ => ih _ []

theorem runBody_extends {f g : Environment → Text → Except EvalError Value}
    (h : ∀ env text, Extends EvalError.IsLimit (f env text) (g env text)) (locals : Environment)
    (body : List Text) :
    Extends EvalError.IsLimit (runBody f locals body) (runBody g locals body) := by
  induction body generalizing locals with
  | nil => exact .same _
  | cons line rest ih =>
    unfold runBody
    cases returned? (statementOf line) with
    | some expression => exact h locals expression
    | none =>
      cases assignment? (statementOf line) with
      | some assignment => exact (h locals assignment.2).bind fun _ => ih _
      | none => exact ih locals

theorem fillPart_extends {f g : Text → Except EvalError Value}
    (h : ∀ text, Extends EvalError.IsLimit (f text) (g text)) (part : Template.Part) :
    Extends EvalError.IsLimit (fillPart f part) (fillPart g part) := by
  cases part with
  | char c => exact .same _
  | placeholder text => exact (h _).bind fun _ => .same _

theorem fillTemplate_extends {f g : Text → Except EvalError Value}
    (h : ∀ text, Extends EvalError.IsLimit (f text) (g text)) (template : Text) :
    Extends EvalError.IsLimit (fillTemplate f template) (fillTemplate g template) :=
  (Extends.mapM (fillPart_extends h) _).bind fun _ => .same _

theorem operandCall_extends (functions : Functions) {f g : Nat → Text → Except EvalError Value}
    (h : ∀ {room room' : Nat}, room ≤ room' → ∀ text,
      Extends EvalError.IsLimit (f room text) (g room' text))
    {room room' : Nat} (hroom : room ≤ room') (text : Text) :
    Extends Obstacle.IsLimit (operandCall functions f room text)
      (operandCall functions g room' text) := by
  unfold operandCall
  by_cases hcall : (Expression.callOf? functions text).isSome
  · rw [if_pos hcall, if_pos hcall]
    have hvalue := h hroom text
    generalize f room text = outcome, g room' text = outcome' at hvalue ⊢
    cases hvalue with
    | same => exact .same _
    | cut hc => exact .cut ⟨_, hc, rfl⟩ _
  · rw [if_neg hcall, if_neg hcall]
    exact .same _

/-- The scope of arithmetic widens with the evaluation of its calls. -/
theorem scope_widens (functions : Functions) (env : Environment) {n n' : Nat} (hn : n ≤ n')
    {f g : Nat → Text → Except EvalError Value}
    (h : ∀ {room room' : Nat}, room ≤ room' → ∀ text,
      Extends EvalError.IsLimit (f room text) (g room' text)) :
    Arithmetic.Scope.Widens ⟨n, env.find?, operandCall functions f⟩
      ⟨n', env.find?, operandCall functions g⟩ := by
  refine ⟨hn, rfl, ?_⟩
  intro room room' hroom text
  exact operandCall_extends functions h hroom text

end Evaluation

open Evaluation

theorem evaluate_extends (functions : Functions) {nesting nesting' calls calls' : Nat}
    (hnesting : nesting ≤ nesting') (hcalls : calls ≤ calls') (env : Environment) (text : Text) :
    Extends EvalError.IsLimit (evaluate functions nesting calls env text)
      (evaluate functions nesting' calls' env text) := by
  induction nesting using Nat.strongRecOn generalizing nesting' calls calls' env text with
  | ind nesting ih =>
    obtain _ | n := nesting
    · rw [evaluate]
      exact .cut (by decide) _
    obtain ⟨n', rfl⟩ : ∃ n', nesting' = n' + 1 := ⟨nesting' - 1, by omega⟩
    have hn : n ≤ n' := Nat.le_of_succ_le_succ hnesting
    -- everything inside the expression has the smaller room
    have inner : ∀ {calls calls'} env text, calls ≤ calls' →
        Extends EvalError.IsLimit (evaluate functions n calls env text)
          (evaluate functions n' calls' env text) :=
      fun env text hc => ih n (Nat.lt_succ_self n) hn hc env text
    rw [evaluate, evaluate]
    dsimp only
    cases Expression.Form.ofText functions (Text.trim text) with
    | literal value => exact .same _
    | template template =>
      exact (fillTemplate_extends (fun text => inner env text hcalls) template).bind
        fun _ => .same _
    | typeOf argument => exact (inner env argument hcalls).bind fun _ => .same _
    | lengthOf argument => exact (inner env argument hcalls).bind fun _ => .same _
    | call function arguments =>
      obtain _ | c := calls
      · exact .cut (by decide) _
      obtain ⟨c', rfl⟩ : ∃ c', calls' = c' + 1 := ⟨calls' - 1, by omega⟩
      have hc : c ≤ c' := Nat.le_of_succ_le_succ hcalls
      exact (Extends.mapM (fun text => inner env text hcalls) _).bind fun values =>
        (bindParameters_extends (fun text => inner env text hcalls) env _ values).bind fun locals =>
          runBody_extends (fun env text => inner env text hc) locals _
    | list contents =>
      exact (Extends.mapM (fun text => inner env text hcalls) _).bind fun _ => .same _
    | arithmetic =>
      have calls_extend : ∀ {room room' : Nat}, room ≤ room' → ∀ text,
          Extends EvalError.IsLimit (evaluate functions (min room n) calls env text)
            (evaluate functions (min room' n') calls' env text) :=
        fun hroom text => ih _ (by omega) (by omega) hcalls env text
      have wider := scope_widens functions env hn calls_extend
      exact (Arithmetic.evaluate_extends wider _).bind fun _ => .same _
    | name => exact .same _

/-! ## Programs -/

namespace Program

theorem execute_extends {f g : Environment → Text → Except EvalError Value}
    (h : ∀ env text, Extends EvalError.IsLimit (f env text) (g env text)) (state : State)
    (statement : Statement) :
    Extends EvalError.IsLimit (execute f state statement) (execute g state statement) := by
  cases statement with
  | print arguments => exact (Extends.mapM (h state.env) _).bind fun _ => .same _
  | augment name op expression => exact (h state.env expression).bind fun _ => .same _
  | assign name expression => exact (h state.env expression).bind fun _ => .same _
  | other => exact .same _

theorem stepLine_extends {f g : Environment → Text → Except EvalError Value}
    (h : ∀ env text, Extends EvalError.IsLimit (f env text) (g env text)) (state : State)
    (line : Text) :
    Extends EvalError.IsLimit (stepLine f state line) (stepLine g state line) := by
  unfold stepLine
  dsimp only
  split
  · exact .same _
  · split
    · exact .same _
    · exact execute_extends h _ _

theorem output_extends (source : Source) {small large : Limits} (hcalls : small.calls ≤ large.calls)
    (hnesting : small.nesting ≤ large.nesting) :
    Extends EvalError.IsLimit (output small source) (output large source) :=
  (Extends.foldlM (stepLine_extends fun env text => evaluate_extends _ hnesting hcalls env text)
    source.lines State.initial).bind fun _ => .same _

end Program

/-- **More room.** In more room an expression and a program have the outcome that they have in less,
value, output or error, unless that is an error that a limit makes. -/
theorem outcome_unchanged_of_more_room {small large : Limits} (hcalls : small.calls ≤ large.calls)
    (hnesting : small.nesting ≤ large.nesting) :
    (∀ functions env text,
      (∀ cause ∈ EvalError.ofLimits,
        evaluate functions small.nesting small.calls env text ≠ .error cause) →
      evaluate functions large.nesting large.calls env text =
        evaluate functions small.nesting small.calls env text) ∧
    (∀ cancelled source,
      (∀ cause ∈ EvalError.ofLimits,
        Program.run small cancelled source ≠ .error (.evaluation cause.message)) →
      Program.run large cancelled source = Program.run small cancelled source) := by
  constructor
  · intro functions env text hcut
    exact (evaluate_extends functions hnesting hcalls env text).eq_of_not_cut hcut
  · intro cancelled source hcut
    cases cancelled with
    | true => rfl
    | false =>
      have houtput := Program.output_extends source hcalls hnesting
      unfold Program.run at hcut ⊢
      rw [houtput.eq_of_not_cut fun cause hlimit heq => hcut cause hlimit (by rw [heq]; rfl)]

/-- A call with parentheses in its body, in just enough room and in plenty. -/
theorem outcome_unchanged_at_call :
    let source := Source.ofText "def f(x):\n    return x + ('b')\nprint(f('a'))".toList
    let functions := Function.ofSource source
    evaluate functions 200 64 [] "f('a')".toList = evaluate functions 3 1 [] "f('a')".toList ∧
      Program.run ⟨64, 200⟩ false source = .ok "ab".toList := by
  intro source functions
  have hvalue : (evaluate functions 3 1 [] "f('a')".toList).isOk = true := by decide +kernel
  have houtput : Program.run ⟨1, 3⟩ false source = .ok "ab".toList := by decide +kernel
  obtain ⟨hexpression, hprogram⟩ :=
    @outcome_unchanged_of_more_room ⟨1, 3⟩ ⟨64, 200⟩ (by decide) (by decide)
  refine ⟨hexpression functions [] "f('a')".toList fun cause _ h => ?_, ?_⟩
  · rw [h] at hvalue
    cases hvalue
  · rw [hprogram false source fun cause _ h => ?_, houtput]
    rw [houtput] at h
    cases h

end DryRun
