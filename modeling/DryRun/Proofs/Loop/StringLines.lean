import DryRun.Proofs.Loop.Bodies
import DryRun.Proofs.Source.StringLines

/-!
# Loops and lines inside strings

The scan for endless loops reads every line from outside strings. So a line inside a string is no
header to it and has no `break` only if it reads so by itself (`Quiet`); then it might as well be
`pass` (`check_hushed`), and only then (`quiet_iff_check_hushed`).
-/

namespace DryRun

open Unicode

namespace Loop

/-- Whether a line by itself heads no endless loop, and leaves none. -/
structure Quiet (line : Text) : Prop where
  header : ∀ body, inlineBody? (statementOf line) = some body → hasBreak (Text.trim body) = true
  exit : hasBreak line = true → Text.indentation line = 0

theorem hasBreak_passFor (line : Text) : hasBreak (passFor line) = false := by
  rw [passFor, hasBreak_blanks_append (isBlankText_takeWhile line)]
  decide +kernel

variable {lines lines' : List Text}

theorem bodyBreaks_hushed (h : List.Forall₂ (Hushed Quiet) lines lines') (indent : Nat) :
    bodyBreaks indent lines' = bodyBreaks indent lines := by
  induction h with
  | nil => rfl
  | @cons line line' lines lines' hline hlines ih =>
    cases hline with
    | same => rw [bodyBreaks, bodyBreaks, ih]
    | pass hcode hquiet =>
      have hpass := not_codeless_passFor line
      rcases Nat.lt_or_ge indent (Text.indentation line) with hdeep | hshallow
      · -- in a body a quiet line stands away from the margin, where it has no `break`
        have hbreak : hasBreak line = false := by
          rw [Bool.eq_false_iff]
          intro hbreak
          rw [hquiet.exit hbreak] at hdeep
          exact Nat.not_lt_zero _ hdeep
        have hdeep' := hdeep
        rw [← indentation_passFor] at hdeep'
        rw [bodyBreaks_cons_of_deeper hpass hdeep', bodyBreaks_cons_of_deeper hcode hdeep, ih,
          hasBreak_passFor, hbreak]
      · have hshallow' := hshallow
        rw [← indentation_passFor] at hshallow'
        rw [bodyBreaks_cons_of_endsBody ⟨hpass, hshallow'⟩,
          bodyBreaks_cons_of_endsBody ⟨hcode, hshallow⟩]

theorem Quiet.endless?_eq_none {line : Text} (h : Quiet line) (later : List Text) :
    endless? line later = none := by
  rw [endless?_eq_none_iff]
  intro body hbody
  have hbreak := h.header body hbody
  split
  · rename_i hempty
    rw [List.isEmpty_iff.1 hempty] at hbreak
    cases hbreak
  · exact hbreak

theorem endless?_passFor (line : Text) (later : List Text) :
    endless? (passFor line) later = none := by
  apply endless?_of_inlineBody?_eq_none
  rw [statementOf_passFor]
  rfl

theorem checkFrom_hushed (h : List.Forall₂ (Hushed Quiet) lines lines') (number : Nat) :
    checkFrom number lines' = checkFrom number lines := by
  induction h generalizing number with
  | nil => rfl
  | @cons line line' lines lines' hline hlines ih =>
    rw [checkFrom, checkFrom, ih]
    cases hline with
    | same =>
      unfold endless?
      simp only [bodyBreaks_hushed hlines]
    | pass hcode hquiet => rw [endless?_passFor, hquiet.endless?_eq_none]

/-- The header that is reported stands in the line of its number. -/
theorem exists_of_checkFrom {number : Nat} {finding : Finding}
    (h : checkFrom number lines = some finding) :
    ∃ before line later, lines = before ++ line :: later ∧
      finding.line = number + before.length ∧ endless? line later = some finding.header := by
  induction lines generalizing number with
  | nil => cases h
  | cons line lines ih =>
    rw [checkFrom] at h
    split at h
    · rename_i header hheader
      cases h
      exact ⟨[], line, lines, rfl, rfl, hheader⟩
    · obtain ⟨before, found, later, rfl, hline, hheader⟩ := ih h
      refine ⟨line :: before, found, later, rfl, ?_, hheader⟩
      rw [hline, List.length_cons]
      omega

/-- Lines inside strings that are quiet by themselves are not reported, and what they hold does not
matter to the report. -/
theorem check_hushed {source : Source} (h : ∀ line ∈ source.stringLines, Quiet line) :
    check (source.hushed fun _ => false) = check source ∧
      ∀ finding, check source = some finding →
        ∀ line, source.line? finding.line = some line → line ∉ source.stringLines := by
  constructor
  · exact checkFrom_hushed (Source.forall₂_hushed fun line hline _ => h line hline) 1
  · intro finding hfinding line hline hstring
    obtain ⟨before, found, later, hlines, hnumber, hheader⟩ := exists_of_checkFrom hfinding
    have hfound : source.line? finding.line = some found := by
      rw [hnumber, Nat.add_comm]
      show source.lines[before.length]? = some found
      rw [hlines, List.getElem?_append_right (Nat.le_refl _), Nat.sub_self]
      rfl
    obtain rfl : line = found := Option.some.inj (hline.symm.trans hfound)
    rw [(h line hstring).endless?_eq_none] at hheader
    cases hheader

/-! ## Lines that are not quiet -/

theorem hasBreak_of_codeless {line : Text} (h : Codeless line) : hasBreak line = false := by
  obtain ⟨margin, hmargin, hscan⟩ := h.exists_scanLine_eq
  have hcode := code_blanks_append hmargin []
  have hblank := hasBreak_blanks_append hmargin []
  rw [hasBreak, hcode] at hblank
  rw [hasBreak, hscan, show margin = margin ++ (scanLine none []).code from
    (List.append_nil margin).symm]
  exact hblank

theorem check_whileTrue (later : List Text) :
    check ⟨"while True:".toList :: later⟩ =
      if bodyBreaks 0 later then checkFrom 2 later else some ⟨"while True:".toList, 1⟩ := by
  have hstatement : Text.trim (stripComment "while True:".toList) = "while True:".toList := by
    decide +kernel
  have hheader : inlineBody? "while True:".toList = some [] := by decide +kernel
  have hendless : endless? "while True:".toList later =
      if bodyBreaks 0 later then none else some "while True:".toList := by
    unfold endless?
    rw [hstatement]
    dsimp only
    rw [hheader]
    rfl
  rw [check, checkFrom, hendless]
  cases bodyBreaks 0 later <;> rfl

theorem bodyBreaks_behind_quote {line : Text} (hcode : ¬ Codeless line)
    (hdeep : 0 < Text.indentation line) :
    bodyBreaks 0 [" '''".toList, line] = hasBreak line := by
  have hquote : hasBreak " '''".toList = false := by decide +kernel
  rw [bodyBreaks_cons_of_deeper (by decide +kernel) (by decide),
    bodyBreaks_cons_of_deeper hcode hdeep, hquote, bodyBreaks, Bool.false_or, Bool.or_false]

theorem check_behind_quote (line : Text) :
    check ⟨["'''".toList] ++ [line]⟩ = checkFrom 2 [line] :=
  checkFrom_of_passesOver (passesOver_of_inlineBody?_eq_none (by decide +kernel)) 1

theorem hushed_line {line : Text} (hcode : ¬ Codeless line) :
    (if !decide (Codeless line) then passFor line else line) = passFor line := by
  rw [decide_eq_false hcode]
  rfl

/-- A header behind a quote that might as well be `pass` has a `break` on its line. -/
theorem hasBreak_of_check_hushed {line body : Text}
    (hbody : inlineBody? (statementOf line) = some body)
    (h : check (Source.hushed (fun _ => false) ⟨["'''".toList] ++ [line]⟩) =
      check ⟨["'''".toList] ++ [line]⟩) : hasBreak (Text.trim body) = true := by
  have hhushed : Source.hushed (fun _ => false) ⟨["'''".toList] ++ [line]⟩ =
      ⟨["'''".toList] ++ [passFor line]⟩ := by
    rw [← hushed_line (not_codeless_of_inlineBody? hbody)]
    rfl
  rw [hhushed, check_behind_quote, check_behind_quote, checkFrom, endless?_passFor, checkFrom,
    checkFrom] at h
  have hends : endless? line [] = none := by
    cases hcase : endless? line [] with
    | none => rfl
    | some header =>
      rw [hcase] at h
      cases h
  have hbreak := endless?_eq_none_iff.1 hends body hbody
  split at hbreak
  · cases hbreak
  · exact hbreak

/-- A `break` behind a quote in a loop that might as well be `pass` stands at the margin. -/
theorem indentation_of_check_hushed {line : Text} (hbreak : hasBreak line = true)
    (h : check (Source.hushed (fun _ => false) ⟨["while True:".toList, " '''".toList] ++ [line]⟩) =
      check ⟨["while True:".toList, " '''".toList] ++ [line]⟩) : Text.indentation line = 0 := by
  by_contra hindent
  have hdeep : 0 < Text.indentation line := Nat.pos_of_ne_zero hindent
  have hdeep' : 0 < Text.indentation (passFor line) := by rwa [indentation_passFor]
  have hcode : ¬ Codeless line := by
    intro hcodeless
    rw [hasBreak_of_codeless hcodeless] at hbreak
    cases hbreak
  have hhushed : Source.hushed (fun _ => false) ⟨["while True:".toList, " '''".toList] ++ [line]⟩ =
      ⟨["while True:".toList, " '''".toList, passFor line]⟩ := by
    rw [← hushed_line hcode]
    rfl
  have hleft : check ⟨["while True:".toList, " '''".toList, passFor line]⟩ =
      some ⟨"while True:".toList, 1⟩ := by
    rw [check_whileTrue, bodyBreaks_behind_quote (not_codeless_passFor line) hdeep',
      hasBreak_passFor, if_neg Bool.false_ne_true]
  have hright : check ⟨["while True:".toList, " '''".toList] ++ [line]⟩ =
      checkFrom 2 [" '''".toList, line] := by
    rw [List.cons_append, check_whileTrue]
    exact if_pos ((bodyBreaks_behind_quote hcode hdeep).trans hbreak)
  rw [hhushed, hleft, hright] at h
  have hle : 2 ≤ 1 := le_line_of_checkFrom h.symm
  omega

/-- No less would do: a line is quiet just if it might as well be `pass` behind a quote at the
margin, and behind a quote in a loop. -/
theorem quiet_iff_check_hushed {line : Text} :
    Quiet line ↔ ∀ before ∈ [["'''".toList], ["while True:".toList, " '''".toList]],
      check (Source.hushed (fun _ => false) ⟨before ++ [line]⟩) = check ⟨before ++ [line]⟩ := by
  constructor
  · intro h before hbefore
    refine (check_hushed ?_).1
    have hstrings : Source.stringLines ⟨before ++ [line]⟩ = [line] := by
      simp only [List.mem_cons, List.not_mem_nil, or_false] at hbefore
      rcases hbefore with rfl | rfl <;> rfl
    rw [hstrings, List.forall_mem_singleton]
    exact h
  · intro h
    have hmargin := h _ List.mem_cons_self
    have hloop := h _ (List.mem_cons_of_mem _ List.mem_cons_self)
    exact
      { header := fun _ hbody => hasBreak_of_check_hushed hbody hmargin
        exit := fun hbreak => indentation_of_check_hushed hbreak hloop }

end Loop

end DryRun
