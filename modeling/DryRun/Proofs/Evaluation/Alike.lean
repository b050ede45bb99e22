import Mathlib.Data.List.Forall2
import DryRun.Evaluation

/-!
# Functions that do the same

Evaluation knows a function by its parameters and by what its body yields. Where the functions of
one name are alike in both, whatever lines the bodies are written in, every expression has the same
value (`evaluate_eq_of_alike`).
-/

namespace DryRun

open Evaluation Expression

/-! ## Alike functions -/

/-- Two functions of the same name and parameters, of which the bodies yield the same. -/
structure Function.Alike (function function' : Function) : Prop where
  name_eq : function'.name = function.name
  parameters_eq : function'.parameters = function.parameters
  runBody_eq : ∀ evaluate locals,
    runBody evaluate locals function'.body = runBody evaluate locals function.body

theorem Function.Alike.refl (function : Function) : function.Alike function where
  name_eq := rfl
  parameters_eq := rfl
  runBody_eq _ _ := rfl

/-- Functions of which those of one name are alike. -/
def Functions.Alike (functions functions' : Functions) : Prop :=
  ∀ name, Option.Rel Function.Alike (functions.find? name) (functions'.find? name)

/-- Functions are alike that are alike one by one. -/
theorem Functions.alike_of_forall₂ {functions functions' : Functions}
    (h : List.Forall₂ Function.Alike functions functions') : functions.Alike functions' := by
  intro name
  induction h with
  | nil => exact .none
  | @cons function function' others others' hfirst hothers ih =>
    unfold Functions.find? at ih ⊢
    rw [List.find?_cons, List.find?_cons, hfirst.name_eq]
    cases function.name == name with
    | true => exact .some hfirst
    | false => exact ih

/-! ## Forms -/

/-- The same form, or calls of functions that are alike. -/
inductive Expression.Form.Alike : Form → Form → Prop
  | same (form : Form) : Alike form form
  | call {function function' : Function} (h : function.Alike function') (arguments : Text) :
    Alike (.call function arguments) (.call function' arguments)

section Tables

variable {functions functions' : Functions} (h : functions.Alike functions')

include h

theorem callForm?_alike (name arguments : Text) :
    Option.Rel Form.Alike (callForm? functions name arguments)
      (callForm? functions' name arguments) := by
  unfold callForm?
  by_cases htype : name = "type".toList
  · rw [if_pos htype, if_pos htype]
    exact .some (.same _)
  · rw [if_neg htype, if_neg htype]
    by_cases hlen : name = "len".toList
    · rw [if_pos hlen, if_pos hlen]
      exact .some (.same _)
    · rw [if_neg hlen, if_neg hlen]
      have hfound := h name
      generalize functions.find? name = found, functions'.find? name = found' at hfound ⊢
      cases hfound with
      | none => exact .none
      | some halike => exact .some (.call halike arguments)

theorem callOf?_alike (text : Text) :
    Option.Rel Form.Alike (callOf? functions text) (callOf? functions' text) := by
  unfold callOf?
  cases splitCall? text with
  | none => exact .none
  | some call => exact callForm?_alike h call.1 call.2

theorem ofText_alike (text : Text) :
    Form.Alike (Form.ofText functions text) (Form.ofText functions' text) := by
  unfold Form.ofText
  by_cases hempty : text.isEmpty = true
  · rw [if_pos hempty, if_pos hempty]
    exact .same _
  rw [if_neg hempty, if_neg hempty]
  cases stringLiteral? text with
  | some contents => exact .same _
  | none =>
    cases template? text with
    | some contents => exact .same _
    | none =>
      have hcall := callOf?_alike h text
      dsimp only
      generalize callOf? functions text = form, callOf? functions' text = form' at hcall ⊢
      cases hcall with
      | some halike => exact halike
      | none => exact .same _

theorem operandCall_alike (evaluate : Nat → Text → Except EvalError Value) :
    operandCall functions' evaluate = operandCall functions evaluate := by
  funext room text
  have hcall := callOf?_alike h text
  unfold operandCall
  generalize callOf? functions text = form, callOf? functions' text = form' at hcall ⊢
  cases hcall with
  | some halike => rfl
  | none => rfl

/-! ## Values -/

/-- Expressions have the same values where the functions are alike. -/
theorem evaluate_eq_of_alike (nesting calls : Nat) :
    evaluate functions' nesting calls = evaluate functions nesting calls := by
  induction nesting using Nat.strongRecOn generalizing calls with
  | ind nesting ih =>
    funext env text
    obtain _ | nesting := nesting
    · rw [evaluate, evaluate]
    -- everything inside the expression has the smaller room
    have inner : ∀ calls, evaluate functions' nesting calls = evaluate functions nesting calls :=
      ih nesting (Nat.lt_succ_self nesting)
    have hform := ofText_alike h (Text.trim text)
    rw [evaluate, evaluate]
    dsimp only
    generalize Form.ofText functions (Text.trim text) = form,
      Form.ofText functions' (Text.trim text) = form' at hform ⊢
    cases hform with
    | @call function function' halike arguments =>
      cases calls with
      | zero => rfl
      | succ callsLeft =>
        simp only [inner, halike.parameters_eq, halike.runBody_eq]
    | same =>
      cases form with
      | literal value => rfl
      | template template => simp only [inner]
      | typeOf argument => simp only [inner]
      | lengthOf argument => simp only [inner]
      | call function arguments =>
        cases calls with
        | zero => rfl
        | succ callsLeft => simp only [inner]
      | list contents => simp only [inner]
      | arithmetic =>
        have calls_eq : ∀ room, evaluate functions' (min room nesting) calls =
            evaluate functions (min room nesting) calls := fun room => ih _ (by omega) calls
        simp only [calls_eq, operandCall_alike h]
      | name => rfl

end Tables

end DryRun
