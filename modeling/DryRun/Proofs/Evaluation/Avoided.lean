import DryRun.Proofs.Evaluation.Parts
import DryRun.Proofs.Expression.Form

/-!
# Names that do not occur

A function is called by a name that is written where it is called. So it makes no difference to an
expression what functions there are of a name that occurs neither in the expression nor in the
functions that it may call (`evaluate_eq_of_avoids`).

1. Texts and functions in which a name does not occur.
2. What the form of an expression is made of stands in the expression.
3. The value of an expression, by induction on the room for nesting.
-/

namespace DryRun

open Evaluation Expression

/-! ## Avoiding a name -/

/-- A text in which a name does not occur. -/
def Text.Avoids (text name : Text) : Prop := ¬ name <:+: text

theorem Text.Avoids.of_isInfix {name text part : Text} (h : text.Avoids name)
    (hpart : part <:+: text) : part.Avoids name :=
  fun hname => h (hname.trans hpart)

/-- A function in which a name occurs neither in a default nor in the body. -/
structure Function.Avoids (function : Function) (name : Text) : Prop where
  default : ∀ parameter ∈ function.parameters, ∀ default, parameter.default = some default →
    default.Avoids name
  body : ∀ line ∈ function.body, line.Avoids name

/-- Functions that differ at most in what a name stands for. -/
def Functions.AgreeBut (name : Text) (functions functions' : Functions) : Prop :=
  ∀ other, other ≠ name → functions'.find? other = functions.find? other

theorem Functions.agreeBut_cons (function : Function) (functions : Functions) :
    functions.AgreeBut function.name (function :: functions) := by
  intro other hother
  exact List.find?_cons_of_neg (by simpa using Ne.symm hother)

/-! ## Forms -/

namespace Expression

/-- A form of which the texts stand in a text and the function is among the given ones. -/
inductive Form.Within (functions : Functions) (text : Text) : Form → Prop
  | literal (value : Value) : Within functions text (.literal value)
  | template {template : Text} (h : template <:+: text) : Within functions text (.template template)
  | typeOf {argument : Text} (h : argument <:+: text) : Within functions text (.typeOf argument)
  | lengthOf {argument : Text} (h : argument <:+: text) : Within functions text (.lengthOf argument)
  | call {function : Function} (hfunction : function ∈ functions) {arguments : Text}
    (h : arguments <:+: text) : Within functions text (.call function arguments)
  | list {contents : Text} (h : contents <:+: text) : Within functions text (.list contents)
  | arithmetic : Within functions text .arithmetic
  | name : Within functions text .name

theorem within_callOf? {functions : Functions} {text : Text} {form : Form}
    (h : callOf? functions text = some form) : form.Within functions text := by
  obtain ⟨⟨name, arguments⟩, hsplit, hform⟩ := Option.bind_eq_some_iff.1 h
  have hinside := (isInfix_of_splitCall? hsplit).2
  dsimp only at hform
  unfold callForm? at hform
  split at hform
  · cases hform
    exact .typeOf hinside
  · split at hform
    · cases hform
      exact .lengthOf hinside
    · obtain ⟨function, hfunction, rfl⟩ := Option.map_eq_some_iff.1 hform
      exact .call (List.mem_of_find?_eq_some hfunction) hinside

theorem within_ofText (functions : Functions) (text : Text) :
    (Form.ofText functions text).Within functions text := by
  have htold := recognised_ofText functions text
  generalize Form.ofText functions text = form at htold ⊢
  cases htold with
  | string | integer | float | constant => exact .literal _
  | template htemplate => exact .template (isInfix_of_template? htemplate)
  | call hcall => exact within_callOf? hcall
  | list hlist => exact .list (isInfix_of_listContents? hlist)
  | arithmetic => exact .arithmetic
  | name => exact .name

end Expression

/-! ## Values -/

section Tables

variable {name : Text} {functions functions' : Functions} (h : functions.AgreeBut name functions')

include h

theorem callOf?_eq_of_avoids {text : Text} (htext : text.Avoids name) :
    callOf? functions' text = callOf? functions text := by
  unfold callOf?
  cases hsplit : splitCall? text with
  | none => rfl
  | some call =>
    obtain ⟨called, arguments⟩ := call
    have hne : called ≠ name := by
      rintro rfl
      exact htext (isInfix_of_splitCall? hsplit).1
    show callForm? functions' called arguments = callForm? functions called arguments
    unfold callForm?
    rw [h called hne]

theorem ofText_eq_of_avoids {text : Text} (htext : text.Avoids name) :
    Form.ofText functions' text = Form.ofText functions text := by
  unfold Form.ofText
  rw [callOf?_eq_of_avoids h htext]

theorem operandCall_eq_of_avoids {evaluate evaluate' : Nat → Text → Except EvalError Value}
    {room : Nat} {text : Text} (htext : text.Avoids name)
    (hvalue : evaluate' room text = evaluate room text) :
    operandCall functions' evaluate' room text = operandCall functions evaluate room text := by
  unfold operandCall
  rw [callOf?_eq_of_avoids h htext, hvalue]

/-- It makes no difference to an expression what functions there are of a name that occurs neither
in it nor in the functions that it may call. -/
theorem evaluate_eq_of_avoids (hfunctions : ∀ function ∈ functions, function.Avoids name)
    (nesting calls : Nat) (env : Environment) {text : Text} (htext : text.Avoids name) :
    evaluate functions' nesting calls env text = evaluate functions nesting calls env text := by
  induction nesting using Nat.strongRecOn generalizing calls env text with
  | ind nesting ih =>
    obtain _ | nesting := nesting
    · rw [evaluate, evaluate]
    have hbare : (Text.trim text).Avoids name := htext.of_isInfix (Text.isInfix_trim text)
    -- everything inside the expression has the smaller room
    have inner : ∀ {inside : Text}, inside <:+: Text.trim text → ∀ calls env, ∀ part,
        part <:+: inside →
        evaluate functions' nesting calls env part = evaluate functions nesting calls env part :=
      fun hinside calls env part hpart => ih nesting (Nat.lt_succ_self nesting) calls env
        ((hbare.of_isInfix hinside).of_isInfix hpart)
    have hwithin := within_ofText functions (Text.trim text)
    rw [evaluate, evaluate]
    dsimp only
    rw [ofText_eq_of_avoids h hbare]
    generalize Form.ofText functions (Text.trim text) = form at hwithin ⊢
    cases hwithin with
    | literal value => rfl
    | template hinside =>
      dsimp only
      rw [fillTemplate_congr (inner hinside calls env)]
    | typeOf hinside =>
      dsimp only
      rw [inner hinside calls env _ List.infix_rfl]
    | lengthOf hinside =>
      dsimp only
      rw [inner hinside calls env _ List.infix_rfl]
    | @call function hfunction arguments hinside =>
      cases calls with
      | zero => rfl
      | succ callsLeft =>
        have havoids := hfunctions function hfunction
        have hdefault : ∀ parameter ∈ function.parameters, ∀ default,
            parameter.default = some default →
            evaluate functions' nesting (callsLeft + 1) env default =
              evaluate functions nesting (callsLeft + 1) env default :=
          fun parameter hparameter default hsome =>
            ih nesting (Nat.lt_succ_self nesting) _ _ (havoids.default parameter hparameter _ hsome)
        have hbody : ∀ line ∈ function.body, ∀ part, part <:+: line → ∀ env,
            evaluate functions' nesting callsLeft env part =
              evaluate functions nesting callsLeft env part :=
          fun line hline part hpart env =>
            ih nesting (Nat.lt_succ_self nesting) _ _ ((havoids.body line hline).of_isInfix hpart)
        dsimp only
        rw [mapM_splitItems_congr (inner hinside _ env)]
        simp only [bindParameters_congr hdefault, runBody_congr hbody]
    | list hinside =>
      dsimp only
      rw [mapM_splitItems_congr (inner hinside calls env)]
    | arithmetic =>
      dsimp only
      have hscope : Arithmetic.Scope.Agrees
          { room := nesting
            valueOf? := env.find?
            call := operandCall functions fun room =>
              evaluate functions (min room nesting) calls env }
          { room := nesting
            valueOf? := env.find?
            call := operandCall functions' fun room =>
              evaluate functions' (min room nesting) calls env }
          (· <:+: Text.trim text) := by
        refine ⟨rfl, rfl, fun called hcalled room => ?_⟩
        have hcall := hbare.of_isInfix hcalled
        have hroom : min room nesting < nesting + 1 := by omega
        dsimp only
        exact operandCall_eq_of_avoids h hcall (ih _ hroom calls env hcall)
      rw [Arithmetic.evaluate_congr hscope]
    | name => rfl

end Tables

end DryRun
