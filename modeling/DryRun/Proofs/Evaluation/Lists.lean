import DryRun.Proofs.Evaluation.Forms
import DryRun.Proofs.Expression.Items

/-!
# Lists of expressions

A list is evaluated item by item, and what is between its brackets falls apart into the items that
were joined, as long as these close their quotes and nest their brackets (`Balanced`): then the
values of the list are those of the texts by themselves (`evaluate_joined`).
-/

namespace DryRun

open Expression Text

/-! ## Balanced texts -/

/-- The texts in which every quote ends at the next one of its kind and the brackets outside of
quotes nest, with commas outside of both or without. -/
inductive Balanced : Bool → Text → Prop
  | nil (commas : Bool) : Balanced commas []
  | char {commas : Bool} {c : Char} {rest : Text} (hquote : Quote.ofChar? c = none)
      (hbracket : Bracket.ofChar? c = none) (hcomma : c = ',' → commas = true)
      (h : Balanced commas rest) : Balanced commas (c :: rest)
  | quoted {commas : Bool} (quote : Quote) (inside : Text) {rest : Text}
      (hinside : quote.char ∉ inside) (h : Balanced commas rest) :
      Balanced commas (quote.char :: (inside ++ quote.char :: rest))
  | enclosed {commas : Bool} (bracket : Bracket) {inside rest : Text}
      (hinside : Balanced true inside) (h : Balanced commas rest) :
      Balanced commas (bracket.opener :: (inside ++ bracket.closer :: rest))

namespace Balanced

variable {commas : Bool} {text : Text}

theorem plain_append (plain : Text) (hplain : (plain.all fun c => Plain c) = true)
    (h : Balanced commas text) : Balanced commas (plain ++ text) := by
  induction plain with
  | nil => exact h
  | cons c rest ih =>
    rw [List.all_cons, Bool.and_eq_true] at hplain
    have hc : Plain c := of_decide_eq_true hplain.1
    exact .char hc.ofQuote hc.ofBracket (absurd · hc.ne_comma) (ih hplain.2)

/-- The splitter and the counter pass over balanced texts, with commas in them at least in
brackets. -/
theorem sealed_toNat (h : Balanced commas text) : Sealed commas.toNat text := by
  induction h with
  | nil commas => exact .nil _
  | @char commas c rest hquote hbracket hcomma h ih =>
    have hfirst : Sealed commas.toNat [c] := by
      by_cases hc : c = ','
      · subst hc
        rw [hcomma rfl]
        exact .comma
      · exact (Sealed.plain ⟨hc, hquote, hbracket⟩).mono (Nat.zero_le _)
    exact hfirst.append ih
  | @quoted commas quote inside rest hinside h ih =>
    have happend := ((Sealed.quoted hinside).mono (Nat.zero_le commas.toNat)).append ih
    rwa [List.cons_append, List.append_assoc] at happend
  | @enclosed commas bracket inside rest hinside h ihinside ih =>
    have happend := ((Sealed.enclosed bracket ihinside).mono (Nat.zero_le commas.toNat)).append ih
    rwa [List.cons_append, List.append_assoc] at happend

end Balanced

/-! ## Values -/

section Values

variable (functions : Functions) (nesting calls : Nat) (env : Environment)

theorem evaluate_trim (text : Text) :
    evaluate functions nesting calls env (trim text) =
      evaluate functions nesting calls env text := by
  cases nesting with
  | zero => rw [evaluate, evaluate]
  | succ nesting =>
    rw [evaluate, evaluate]
    dsimp only
    rw [trim_trim]

/-- The items of joined texts are evaluated as the texts. -/
theorem mapM_splitItems_join {texts : List Text} (hsealed : ∀ text ∈ texts, Sealed 0 text)
    (hblank : ∀ text ∈ texts, isBlankText text = false) :
    (splitItems (Text.join ", ".toList texts)).mapM (evaluate functions nesting calls env) =
      texts.mapM (evaluate functions nesting calls env) := by
  rw [splitItems_join_eq_map_trim hsealed hblank, List.mapM_map]
  congr 1
  funext text
  exact evaluate_trim functions nesting calls env text

/-- The texts in a list have one level less, and each has all of it. -/
theorem evaluate_joined {texts : List Text} (hsealed : ∀ text ∈ texts, Sealed 0 text)
    (hblank : ∀ text ∈ texts, isBlankText text = false) :
    evaluate functions (nesting + 1) calls env
        (Bracket.square.opener :: (Text.join ", ".toList texts ++ [Bracket.square.closer])) =
      (do return .list (← texts.mapM (evaluate functions nesting calls env))) := by
  have hbare : Bare ('[' :: (Text.join ", ".toList texts ++ [']'])) :=
    .enclosed (by decide) (by decide) _
  have hform := ofText_bracketed functions (Sealed.join hsealed)
  rw [← hbare.trim_eq] at hform
  rw [← mapM_splitItems_join functions nesting calls env hsealed hblank]
  exact evaluate_of_list hform nesting calls env

end Values

end DryRun
