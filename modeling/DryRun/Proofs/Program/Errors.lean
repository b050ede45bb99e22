import DryRun.Proofs.Evaluation.Errors
import DryRun.Proofs.Function.Parts
import DryRun.Proofs.Program.Steps

/-!
# How programs fail

A program that is not cancelled fails in one of four ways, and so does an expression by itself. Two
of them are errors of operators, and come with the sign of the operator in the text
(`fails_as_written`).
-/

namespace DryRun

open Evaluation Expression Text

/-! ## Programs -/

namespace Program

theorem isInfix_sign_of_augmented? {line name expression : Text} {op : Operator}
    (h : augmented? line = some (name, op, expression)) : [op.sign] <:+: line := by
  obtain ⟨c, value, hop, hsuffix, -⟩ := exists_suffix_of_augmented? h
  rw [Operator.eq_sign_of_ofChar? hop] at hsuffix
  exact (List.prefix_append [op.sign] _).isInfix.trans hsuffix.isInfix

theorem isInfix_sign_of_ofLine {line name expression : Text} {op : Operator}
    (h : Statement.ofLine line = .augment name op expression) : [op.sign] <:+: line := by
  unfold Statement.ofLine at h
  split at h
  · cases h
  · split at h
    · rename_i haugmented
      cases h
      exact isInfix_sign_of_augmented? haugmented
    · split at h <;> cases h

variable {cause : EvalError} {f : Environment → Text → Except EvalError Value} {line : Text}
  (hf : ∀ part, part <:+: line → ∀ env, SparesError cause (f env part))

theorem augment_spares {op : Operator} (h : op ∉ cause.operators) (env : Environment) (name : Text)
    (right : Value) : SparesError cause (augment env name op right) := by
  unfold augment
  split
  · exact .ok trivial
  · rename_i left _
    have happly := Operator.apply_spares h left right
    split
    · exact .ok trivial
    · exact .ok trivial
    · rename_i cause' heq
      rw [heq] at happly
      refine .error fun hcause => happly.ne_error ?_
      rw [hcause]

include hf

theorem execute_spares (hline : cause.Foreign line) (state : State) :
    SparesError cause (execute f state (.ofLine line)) := by
  have hwithin := within_ofLine line
  cases hstatement : Statement.ofLine line with
  | print arguments =>
    rw [hstatement] at hwithin
    cases hwithin with
    | print harguments =>
      exact (mapM_splitItems_spares fun part hpart =>
        hf part (hpart.trans harguments) state.env).bind fun _ _ => .ok trivial
  | augment name op expression =>
    rw [hstatement] at hwithin
    have hop : op ∉ cause.operators :=
      fun hop => hline op hop (isInfix_sign_of_ofLine hstatement)
    cases hwithin with
    | augment hexpression =>
      exact (hf _ hexpression state.env).bind fun right _ =>
        (augment_spares hop state.env name right).bind fun _ _ => .ok trivial
  | assign name expression =>
    rw [hstatement] at hwithin
    cases hwithin with
    | assign hexpression => exact (hf _ hexpression state.env).bind fun _ _ => .ok trivial
  | other => exact .ok trivial

theorem stepLine_spares (hline : cause.Foreign line) (state : State) :
    SparesError cause (stepLine f state line) := by
  have hpart : ∀ part, part <:+: statementOf line → ∀ env, SparesError cause (f env part) :=
    fun part hpart => hf part (hpart.trans (isInfix_statementOf line))
  unfold stepLine
  dsimp only
  split
  · exact .ok trivial
  · split
    · exact .ok trivial
    · exact execute_spares hpart (hline.of_isInfix (isInfix_statementOf line)) _

omit hf in
/-- A program spares an error that no limit makes, unless the sign of an operator that fails with it
occurs in the program. -/
theorem output_spares (hlimit : ¬ cause.IsLimit) {program : Text} (hprogram : cause.Foreign program)
    (limits : Limits) : SparesError cause (output limits (.ofText program)) := by
  have hlines : ∀ line ∈ lines program, cause.Foreign line :=
    fun line hline => hprogram.of_isInfix (isInfix_of_mem_lines hline)
  have hfunctions : ∀ op ∈ cause.operators, ∀ function ∈ Function.ofSource (.ofText program),
      function.Avoids [op.sign] := fun op hop =>
    Function.avoids_of_mem_collect (by simp) fun line hline => hlines line hline op hop
  have hsteps : SparesError cause ((lines program).foldlM
      (stepLine (evaluate (Function.ofSource (.ofText program)) limits.nesting limits.calls))
      State.initial) := by
    refine Spares.foldlM (fun line hline state _ => ?_) trivial
    refine stepLine_spares (fun part hpart env => ?_) (hlines line hline) state
    exact DryRun.evaluate_spares hlimit hfunctions _ _ env ((hlines line hline).of_isInfix hpart)
  exact hsteps.bind fun _ _ => .ok trivial

end Program

/-! ## Ways to fail -/

/-- The texts of a function that are evaluated: the defaults of its parameters, and its body. -/
def Function.texts (function : Function) : List Text :=
  function.parameters.filterMap (·.default) ++ function.body

theorem Text.avoids_singleton {c : Char} {text : Text} (h : c ∉ text) : text.Avoids [c] :=
  fun hpart => h (hpart.subset (List.mem_singleton_self c))

theorem Function.avoids_singleton {function : Function} {c : Char}
    (h : ∀ text ∈ function.texts, c ∉ text) : function.Avoids [c] where
  default parameter hparameter default hdefault :=
    Text.avoids_singleton (h default (List.mem_append_left _
      (List.mem_filterMap.2 ⟨parameter, hparameter, hdefault⟩)))
  body line hline := Text.avoids_singleton (h line (List.mem_append_right _ hline))

/-- Whether a message is one of the four of evaluation; with that of an operator, a sign of it
occurs. -/
structure EvalError.Explained (occurs : Char → Prop) (message : String) : Prop where
  mem : message ∈
    ["RecursionError: maximum recursion depth exceeded", "SyntaxError: too many nested parentheses",
     "ZeroDivisionError: division by zero", "MemoryError: sequence result is too large"]
  division : message = "ZeroDivisionError: division by zero" → occurs '/'
  sequence : message = "MemoryError: sequence result is too large" → occurs '+' ∨ occurs '*'

/-- Whether an outcome is a success, or an error of evaluation with such a message. -/
def FailsExplained (occurs : Char → Prop) (outcome : Except Error α) : Prop :=
  (∃ value, outcome = .ok value) ∨
    ∃ message, outcome = .error (.evaluation message) ∧ EvalError.Explained occurs message

theorem EvalError.explained {cause : EvalError} {occurs : Char → Prop}
    (h : ¬ cause.IsLimit → ∃ op ∈ cause.operators, occurs op.sign) :
    Explained occurs cause.message := by
  cases cause with
  | recursionLimit =>
    exact ⟨by decide, fun heq => absurd heq (by decide), fun heq => absurd heq (by decide)⟩
  | parenthesesLimit =>
    exact ⟨by decide, fun heq => absurd heq (by decide), fun heq => absurd heq (by decide)⟩
  | divisionByZero =>
    obtain ⟨op, hop, hoccurs⟩ := h (by decide)
    cases List.mem_singleton.1 hop
    exact ⟨by decide, fun _ => hoccurs, fun heq => absurd heq (by decide)⟩
  | sequenceTooLarge =>
    obtain ⟨op, hop, hoccurs⟩ := h (by decide)
    refine ⟨by decide, fun heq => absurd heq (by decide), fun _ => ?_⟩
    rcases List.mem_pair.1 hop with rfl | rfl
    · exact .inl hoccurs
    · exact .inr hoccurs

theorem failsExplained_mapError {occurs : Char → Prop} {outcome : Except EvalError α}
    (h : ∀ cause : EvalError, ¬ cause.IsLimit → (∀ op ∈ cause.operators, ¬ occurs op.sign) →
      SparesError cause outcome) :
    FailsExplained occurs (outcome.mapError fun cause => .evaluation cause.message) := by
  cases outcome with
  | ok value => exact .inl ⟨value, rfl⟩
  | error cause =>
    refine .inr ⟨cause.message, rfl, EvalError.explained fun hlimit => ?_⟩
    by_contra hnone
    push Not at hnone
    exact (h cause hlimit hnone).ne_error rfl

/-- **Failures are written.** An expression by itself and a program that is not cancelled succeed or
fail with one of four messages. Division by zero takes a `/` in the program, or in the expression or
a function that it may call; a sequence too large takes a `+` or a `*`. -/
theorem fails_as_written (limits : Limits) :
    (∀ functions env text,
      FailsExplained (fun c => ∃ part ∈ text :: functions.flatMap Function.texts, c ∈ part)
        ((evaluate functions limits.nesting limits.calls env text).mapError
          fun cause => .evaluation cause.message)) ∧
    ∀ program, FailsExplained (· ∈ program) (Program.run limits false (.ofText program)) := by
  constructor
  · intro functions env text
    refine failsExplained_mapError fun cause hlimit hsigns => ?_
    have htext : ∀ op ∈ cause.operators, op.sign ∉ text :=
      fun op hop hmem => hsigns op hop ⟨text, List.mem_cons_self, hmem⟩
    refine evaluate_spares hlimit (fun op hop function hfunction => ?_) _ _ env
      fun op hop => avoids_singleton (htext op hop)
    refine Function.avoids_singleton fun part hpart hmem => hsigns op hop ⟨part, ?_, hmem⟩
    exact List.mem_cons_of_mem _ (List.mem_flatMap.2 ⟨function, hfunction, hpart⟩)
  · intro program
    refine failsExplained_mapError fun cause hlimit hsigns => ?_
    exact Program.output_spares hlimit (fun op hop => avoids_singleton (hsigns op hop)) limits

example : Program.run ⟨0, 1⟩ false (.ofText "print('ab' * 9999999)".toList) =
    .error (.evaluation "MemoryError: sequence result is too large") := by decide +kernel

end DryRun
