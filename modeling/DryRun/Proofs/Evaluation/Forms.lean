import DryRun.Evaluation

/-!
# Evaluation by form

The value of an expression whose form is known: what is left of the room is there for its parts.
-/

namespace DryRun

open Expression

variable {functions : Functions} {text : Text}

theorem evaluate_of_literal {value : Value}
    (h : Form.ofText functions (Text.trim text) = .literal value) (nesting calls : Nat)
    (env : Environment) : evaluate functions (nesting + 1) calls env text = .ok value := by
  rw [evaluate]
  dsimp only
  rw [h]

theorem evaluate_of_template {template : Text}
    (h : Form.ofText functions (Text.trim text) = .template template) (nesting calls : Nat)
    (env : Environment) :
    evaluate functions (nesting + 1) calls env text =
      (do
        return .str (← Evaluation.fillTemplate (evaluate functions nesting calls env) template)) := by
  rw [evaluate]
  dsimp only
  rw [h]

theorem evaluate_of_lengthOf {argument : Text}
    (h : Form.ofText functions (Text.trim text) = .lengthOf argument) (nesting calls : Nat)
    (env : Environment) :
    evaluate functions (nesting + 1) calls env text =
      (do return .int (← evaluate functions nesting calls env argument).length) := by
  rw [evaluate]
  dsimp only
  rw [h]

theorem evaluate_of_list {contents : Text}
    (h : Form.ofText functions (Text.trim text) = .list contents) (nesting calls : Nat)
    (env : Environment) :
    evaluate functions (nesting + 1) calls env text =
      (do return .list (← (splitItems contents).mapM (evaluate functions nesting calls env))) := by
  rw [evaluate]
  dsimp only
  rw [h]

theorem evaluate_of_name (h : Form.ofText functions (Text.trim text) = .name) (nesting calls : Nat)
    (env : Environment) :
    evaluate functions (nesting + 1) calls env text =
      .ok ((env.find? (Text.trim text)).getD (.str (Text.trim text))) := by
  rw [evaluate]
  dsimp only
  rw [h]

theorem evaluate_of_arithmetic {value : Value} {nesting : Nat} {env : Environment}
    (h : Form.ofText functions (Text.trim text) = .arithmetic)
    (hvalue : ∀ call, Arithmetic.evaluate { room := nesting, valueOf? := env.find?, call := call }
      (Text.trim text) = .ok (some value)) (calls : Nat) :
    evaluate functions (nesting + 1) calls env text = .ok value := by
  rw [evaluate]
  dsimp only
  rw [h]
  dsimp only
  rw [hvalue]
  rfl

end DryRun
