import DryRun.Proofs.Evaluation.Alike

/-!
# Collecting definitions

The functions that consecutive lines define: lines without a header define none, functions that were
alike before the lines are so behind them, and a line at the margin ends the bodies before it.
-/

namespace DryRun

open Evaluation Text

namespace Function

theorem collect_eq_of_header?_eq_none (earlier : Functions) {lines : List Text}
    (h : ∀ line ∈ lines, header? line = none) : collect earlier lines = earlier := by
  induction lines with
  | nil => rfl
  | cons line later ih =>
    rw [List.forall_mem_cons] at h
    rw [collect, ofLines?, h.1]
    exact ih h.2

/-! ## Alike functions -/

theorem alike_append {function function' : Option Function}
    (h : Option.Rel Alike function function') {earlier earlier' : Functions}
    (hearlier : List.Forall₂ Alike earlier earlier') :
    List.Forall₂ Alike (function.toList ++ earlier) (function'.toList ++ earlier') := by
  cases h with
  | none => exact hearlier
  | some halike => exact .cons halike hearlier

theorem collect_alike {earlier earlier' : Functions}
    (hearlier : List.Forall₂ Alike earlier earlier') (lines : List Text) :
    List.Forall₂ Alike (collect earlier lines) (collect earlier' lines) := by
  induction lines generalizing earlier earlier' with
  | nil => exact hearlier
  | cons line later ih =>
    refine ih (alike_append ?_ hearlier)
    cases ofLines? line later with
    | none => exact .none
    | some function => exact .some (.refl function)

/-! ## Margins -/

section Margin

variable {header : Text} (hblank : isBlankText header = false) (hmargin : indentation header = 0)

include hblank hmargin

theorem takeWhile_inBody_append (indent : Nat) (later behind : List Text) :
    (later ++ header :: behind).takeWhile (inBody indent) = later.takeWhile (inBody indent) := by
  have hends : (header :: behind).takeWhile (inBody indent) = [] :=
    List.takeWhile_cons_of_neg (by simp [inBody, hblank, hmargin])
  rw [List.takeWhile_append, hends]
  split
  · rename_i hlength
    rw [List.append_nil, (List.takeWhile_prefix _).eq_of_length hlength]
  · rfl

/-- A line at the margin ends all bodies before it. -/
theorem collect_append_of_margin (earlier : Functions) (lines behind : List Text) :
    collect earlier (lines ++ header :: behind) =
      collect (collect earlier lines) (header :: behind) := by
  induction lines generalizing earlier with
  | nil => rfl
  | cons line later ih =>
    have hfirst : ofLines? line (later ++ header :: behind) = ofLines? line later := by
      unfold ofLines?
      rw [takeWhile_inBody_append hblank hmargin]
    rw [List.cons_append, collect, hfirst, ih]
    rfl

end Margin

/-- Where the first line that is not blank stands at the margin, only blank lines belong to a body
in front of the lines. -/
theorem isBlankText_of_mem_takeWhile {lines : List Text}
    (hmargin : ∀ line, lines.find? (!isBlankText ·) = some line → indentation line = 0)
    {indent : Nat} {line : Text} (hline : line ∈ lines.takeWhile (inBody indent)) :
    isBlankText line = true := by
  induction lines with
  | nil => cases hline
  | cons first rest ih =>
    by_cases hblank : isBlankText first = true
    · rw [List.takeWhile_cons_of_pos (by simp [inBody, hblank])] at hline
      rcases List.mem_cons.1 hline with rfl | hline
      · exact hblank
      · refine ih (fun line hfind => hmargin line ?_) hline
        rwa [List.find?_cons_of_neg (by simp [hblank])]
    · have hindent : indentation first = 0 :=
        hmargin first (List.find?_cons_of_pos (by simp [hblank]))
      rw [List.takeWhile_cons_of_neg (by simp [inBody, hblank, hindent])] at hline
      cases hline

end Function

end DryRun
