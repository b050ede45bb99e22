import DryRun.Function
import DryRun.Proofs.Source.Codeless

/-!
# Lines inside strings

The lines of a source that begin inside a string from an earlier line, and the source with `pass`
in their place. Whatever goes through the lines one by one meets the line itself, or `pass` behind
its margin (`Hushed`).
-/

namespace DryRun

open Unicode

/-- The lines that begin inside a string from an earlier line. -/
def Source.stringLines (source : Source) : List Text :=
  ((source.lines.zip source.scans).filter (·.2.continuesString)).map (·.1)

/-! ## Lines with `pass` -/

/-- The line that does nothing, behind the margin of a line. -/
def passFor (line : Text) : Text := line.takeWhile isBlank ++ "pass".toList

section Pass

variable (line : Text)

theorem isBlankText_takeWhile : Text.isBlankText (line.takeWhile isBlank) = true :=
  List.all_takeWhile

theorem statementOf_passFor : statementOf (passFor line) = "pass".toList :=
  (statementOf_blanks_append (isBlankText_takeWhile line) _).trans (by decide)

theorem indentation_passFor : Text.indentation (passFor line) = Text.indentation line :=
  Text.indentation_blanks_append (isBlankText_takeWhile line) _

theorem trim_passFor : Text.trim (passFor line) = "pass".toList :=
  (Text.trim_blanks_append (isBlankText_takeWhile line) _).trans (by decide)

theorem not_codeless_passFor : ¬ Codeless (passFor line) := by
  rw [codeless_iff, trim_passFor]
  decide

theorem header?_passFor : Function.header? (passFor line) = none := by
  rw [Function.header?, trim_passFor]
  rfl

end Pass

theorem isBlankText_eq_false {line : Text} (h : ¬ Codeless line) : Text.isBlankText line = false :=
  Bool.eq_false_iff.2 fun hblank => h (.blank hblank)

/-! ## Sources with `pass` -/

/-- The line itself, or `pass` in the place of a line of a kind. -/
inductive Hushed (kind : Text → Prop) (line : Text) : Text → Prop
  | same : Hushed kind line line
  | pass (hcode : ¬ Codeless line) (h : kind line) : Hushed kind line (passFor line)

/-- The source with `pass` for the code of the lines inside strings that are not kept. -/
def Source.hushed (keeps : Text → Bool) (source : Source) : Source where
  lines := List.zipWith
    (fun line scan =>
      if scan.continuesString && !keeps line && !decide (Codeless line) then passFor line else line)
    source.lines source.scans

/-- Where the lines inside strings are of a kind or kept, the hushed source is the source line by
line, but for `pass` in the place of lines of the kind. -/
theorem Source.forall₂_hushed {source : Source} {keeps : Text → Bool} {kind : Text → Prop}
    (h : ∀ line ∈ source.stringLines, keeps line = false → kind line) :
    List.Forall₂ (Hushed kind) source.lines (source.hushed keeps).lines := by
  have hkind : ∀ line scan, (line, scan) ∈ source.lines.zip source.scans →
      scan.continuesString = true → keeps line = false → kind line := by
    intro line scan hmem hcontinues
    exact h line (List.mem_map.2 ⟨_, List.mem_filter.2 ⟨hmem, hcontinues⟩, rfl⟩)
  have hlength : source.scans.length = source.lines.length := length_scanLines _ _
  unfold Source.hushed
  dsimp only
  generalize source.lines = lines, source.scans = scans at hkind hlength
  induction lines generalizing scans with
  | nil => exact .nil
  | cons line lines ih =>
    cases scans with
    | nil => cases hlength
    | cons scan scans =>
      refine .cons ?_ (ih scans ?_ (Nat.succ.inj hlength))
      · dsimp only
        split
        · rename_i hhush
          simp only [Bool.and_eq_true, Bool.not_eq_true', decide_eq_false_iff_not] at hhush
          exact .pass hhush.2 (hkind _ _ List.mem_cons_self hhush.1.1 hhush.1.2)
        · exact .same
      · exact fun other scan' hmem => hkind other scan' (List.mem_cons_of_mem _ hmem)

end DryRun
