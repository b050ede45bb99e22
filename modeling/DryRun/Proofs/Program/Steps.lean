import DryRun.Program
import DryRun.Proofs.Evaluation.Parts
import DryRun.Proofs.Source.Codeless

/-!
# Steps of programs

What a line makes of a state. A line without code leaves it as it is, and a statement evaluates
nothing but parts of its line.
-/

namespace DryRun

open Evaluation Expression Text

namespace Program

/-! ## Lines without code -/

theorem stepLine_of_codeless {line : Text} (h : Codeless line)
    (evaluate : Environment → Text → Except EvalError Value) (state : State) :
    stepLine evaluate state line = .ok state := by
  unfold stepLine
  rw [h.statementOf_eq]
  rfl

/-- No line at the margin is passed over. -/
theorem State.passes_zero (state : State) : state.passes 0 = false := by
  cases hdefinition : state.definition <;> simp [State.passes, hdefinition]

/-! ## Statements -/

theorem isInfix_of_printed? {line arguments : Text} (h : printed? line = some arguments) :
    arguments <:+: line := by
  obtain ⟨⟨found, rest⟩, hword, hrest⟩ := Option.bind_eq_some_iff.1 h
  obtain ⟨inside, hinside, hclosed⟩ := Option.bind_eq_some_iff.1 hrest
  obtain rfl := eq_append_of_word hword
  have hstart := isSuffix_trimStart rest
  rw [eq_append_of_after? hinside, eq_append_of_beforeLast? hclosed] at hstart
  exact (List.infix_append' _ _ _).trans (hstart.trans (List.suffix_append _ _)).isInfix

/-- An augmented assignment has its operator, an equals sign and its expression at the end. -/
theorem exists_suffix_of_augmented? {line name expression : Text} {op : Operator}
    (h : augmented? line = some (name, op, expression)) :
    ∃ c value, Operator.ofChar? c = some op ∧ c :: '=' :: value <:+ line ∧
      expression = Text.trimStart value := by
  obtain ⟨⟨found, rest⟩, hname, hrest⟩ := Option.bind_eq_some_iff.1 h
  have hbehind := (isSuffix_trimStart rest).trans (isSuffix_of_identifier hname)
  dsimp only at hrest
  split at hrest
  · rename_i c value hvalue
    obtain ⟨op', hop, hshown⟩ := Option.bind_eq_some_iff.1 hrest
    rw [hvalue] at hbehind
    split at hshown
    · cases hshown
    · cases hshown
      exact ⟨c, value, hop, hbehind, rfl⟩
  · cases hrest

theorem isInfix_of_augmented? {line name expression : Text} {op : Operator}
    (h : augmented? line = some (name, op, expression)) : expression <:+: line := by
  obtain ⟨c, value, -, hsuffix, rfl⟩ := exists_suffix_of_augmented? h
  have hvalue : value <:+ line :=
    ((List.suffix_cons _ _).trans (List.suffix_cons _ _)).trans hsuffix
  exact ((isSuffix_trimStart value).trans hvalue).isInfix

/-- A statement of which the expressions stand in a text. -/
inductive Statement.Within (text : Text) : Statement → Prop
  | print {arguments : Text} (h : arguments <:+: text) : Within text (.print arguments)
  | augment {expression : Text} (h : expression <:+: text) (name : Text) (op : Operator) :
    Within text (.augment name op expression)
  | assign {expression : Text} (h : expression <:+: text) (name : Text) :
    Within text (.assign name expression)
  | other : Within text .other

theorem within_ofLine (line : Text) : (Statement.ofLine line).Within line := by
  unfold Statement.ofLine
  split
  · rename_i hprinted
    exact .print (isInfix_of_printed? hprinted)
  · split
    · rename_i haugmented
      exact .augment (isInfix_of_augmented? haugmented) _ _
    · split
      · rename_i hassignment
        exact .assign (isInfix_of_assignment? hassignment) _
      · exact .other

section Agreement

variable {f f' : Environment → Text → Except EvalError Value} {line : Text}
  (h : ∀ part, part <:+: line → ∀ env, f' env part = f env part)

include h

theorem execute_congr {statement : Statement} (hstatement : statement.Within line)
    (state : State) : execute f' state statement = execute f state statement := by
  cases hstatement with
  | print harguments =>
    unfold execute
    dsimp only
    rw [mapM_splitItems_congr fun part hpart => h part (hpart.trans harguments) state.env]
  | augment hexpression name op =>
    unfold execute
    dsimp only
    rw [h _ hexpression]
  | assign hexpression name =>
    unfold execute
    dsimp only
    rw [h _ hexpression]
  | other => rfl

theorem stepLine_congr (state : State) : stepLine f' state line = stepLine f state line := by
  have hpart : ∀ part, part <:+: statementOf line → ∀ env, f' env part = f env part :=
    fun part hpart => h part (hpart.trans (isInfix_statementOf line))
  unfold stepLine
  dsimp only
  rw [execute_congr hpart (within_ofLine (statementOf line))]

end Agreement

end Program

end DryRun
