import DryRun.Loop
import DryRun.Proofs.Source.Codeless

/-!
# Bodies of loops

The scan for endless loops passes over the lines that are no header of one, or the header of one
whose body has a `break`. The body of a header reaches to the first line with code that stands no
deeper (`EndsBody`). So a `break` more in the body of the loop that is reported lets the scan go on
behind that loop, and what stands behind the line that ends its body does not matter to the report
(`break_settles_loop`).

1. The body of a header, line by line.
2. The lines that the scan passes over.
3. A `break` in the body, and other lines behind it.
-/

namespace DryRun

open Unicode

namespace Loop

/-! ## Bodies -/

/-- Whether a line ends the body of a header of the given indentation. -/
def EndsBody (indent : Nat) (line : Text) : Prop :=
  ¬ Codeless line ∧ Text.indentation line ≤ indent

instance (indent : Nat) : DecidablePred (EndsBody indent) :=
  fun _ => inferInstanceAs (Decidable (_ ∧ _))

section Lines

variable {indent : Nat} {line : Text}

theorem passedOver_iff :
    ((Text.trim line).isEmpty || (Text.trim line).head? = some '#') = true ↔ Codeless line := by
  rw [codeless_iff]
  cases Text.trim line with
  | nil => simp
  | cons c rest => simp

theorem bodyBreaks_cons_of_codeless (h : Codeless line) (indent : Nat) (rest : List Text) :
    bodyBreaks indent (line :: rest) = bodyBreaks indent rest := by
  rw [bodyBreaks]
  exact if_pos (passedOver_iff.2 h)

theorem bodyBreaks_cons_of_endsBody (h : EndsBody indent line) (rest : List Text) :
    bodyBreaks indent (line :: rest) = false := by
  rw [bodyBreaks, if_neg (fun hpassed => h.1 (passedOver_iff.1 hpassed)), if_pos h.2]

theorem bodyBreaks_cons_of_deeper (h : ¬ Codeless line) (hdeep : indent < Text.indentation line)
    (rest : List Text) :
    bodyBreaks indent (line :: rest) = (hasBreak line || bodyBreaks indent rest) := by
  rw [bodyBreaks, if_neg (fun hpassed => h (passedOver_iff.1 hpassed)),
    if_neg (Nat.not_le.2 hdeep)]

/-- A line has no code, or ends a body, or stands in it. -/
theorem line_cases (indent : Nat) (line : Text) :
    Codeless line ∨ EndsBody indent line ∨ ¬ Codeless line ∧ indent < Text.indentation line := by
  by_cases h : Codeless line
  · exact Or.inl h
  · rcases Nat.lt_or_ge indent (Text.indentation line) with hdeep | hshallow
    · exact Or.inr (Or.inr ⟨h, hdeep⟩)
    · exact Or.inr (Or.inl ⟨h, hshallow⟩)

end Lines

/-- What follows the end of a body does not matter to it. -/
theorem bodyBreaks_append_endsBody {indent : Nat} {ender : Text} (h : EndsBody indent ender)
    (between behind others : List Text) :
    bodyBreaks indent (between ++ ender :: others) =
      bodyBreaks indent (between ++ ender :: behind) := by
  induction between with
  | nil =>
    rw [List.nil_append, List.nil_append, bodyBreaks_cons_of_endsBody h,
      bodyBreaks_cons_of_endsBody h]
  | cons line between ih => rw [List.cons_append, List.cons_append, bodyBreaks, bodyBreaks, ih]

section Break

variable {indent : Nat} {line : Text} (hcode : ¬ Codeless line) (hbreak : hasBreak line = true)
  (hdeep : indent < Text.indentation line)

include hcode hbreak hdeep

/-- A `break` in a body is found behind lines that do not end it. -/
theorem bodyBreaks_append_break {between : List Text}
    (hbetween : ∀ other ∈ between, ¬ EndsBody indent other) (behind : List Text) :
    bodyBreaks indent (between ++ line :: behind) = true := by
  induction between with
  | nil => rw [List.nil_append, bodyBreaks_cons_of_deeper hcode hdeep, hbreak, Bool.true_or]
  | cons other between ih =>
    rw [List.forall_mem_cons] at hbetween
    rw [List.cons_append]
    rcases line_cases indent other with hother | hother | ⟨hother, hdeeper⟩
    · rw [bodyBreaks_cons_of_codeless hother, ih hbetween.2]
    · exact absurd hother hbetween.1
    · rw [bodyBreaks_cons_of_deeper hother hdeeper, ih hbetween.2, Bool.or_true]

/-- A body with a `break` has one still where another is inserted that stands deep enough. -/
theorem bodyBreaks_insert_break {between behind : List Text}
    (h : bodyBreaks indent (between ++ behind) = true) :
    bodyBreaks indent (between ++ line :: behind) = true := by
  induction between with
  | nil => rw [List.nil_append, bodyBreaks_cons_of_deeper hcode hdeep, hbreak, Bool.true_or]
  | cons other between ih =>
    rw [List.cons_append] at h ⊢
    rcases line_cases indent other with hother | hother | ⟨hother, hdeeper⟩
    · rw [bodyBreaks_cons_of_codeless hother] at h ⊢
      exact ih h
    · rw [bodyBreaks_cons_of_endsBody hother] at h
      cases h
    · rw [bodyBreaks_cons_of_deeper hother hdeeper, Bool.or_eq_true] at h ⊢
      exact h.imp_right ih

end Break

/-! ## Lines passed over -/

/-- Whether a loop with this header and these lines behind it ends. -/
theorem endless?_eq_none_iff {line : Text} {later : List Text} :
    endless? line later = none ↔ ∀ body, inlineBody? (statementOf line) = some body →
      (if (Text.trim body).isEmpty then bodyBreaks (Text.indentation line) later
        else hasBreak (Text.trim body)) = true := by
  unfold endless? statementOf
  dsimp only
  cases inlineBody? (Text.trim (stripComment line)) with
  | none => simp
  | some body =>
    simp only [Option.some.injEq, forall_eq']
    split <;> simp

theorem endless?_of_inlineBody?_eq_none {line : Text} (h : inlineBody? (statementOf line) = none)
    (later : List Text) : endless? line later = none := by
  rw [endless?_eq_none_iff, h]
  exact nofun

/-- Whether the scan passes over all of the lines, in front of what follows them. -/
def PassesOver (behind : List Text) : List Text → Prop
  | [] => True
  | line :: rest => endless? line (rest ++ behind) = none ∧ PassesOver behind rest

theorem checkFrom_of_passesOver {behind lines : List Text} (h : PassesOver behind lines)
    (number : Nat) :
    checkFrom number (lines ++ behind) = checkFrom (number + lines.length) behind := by
  induction lines generalizing number with
  | nil => rfl
  | cons line rest ih =>
    rw [List.cons_append, checkFrom, h.1]
    show checkFrom (number + 1) (rest ++ behind) = _
    rw [ih h.2, List.length_cons, Nat.add_assoc, Nat.add_comm 1]

theorem passesOver_of_inlineBody?_eq_none {lines : List Text}
    (h : ∀ line ∈ lines, inlineBody? (statementOf line) = none) {behind : List Text} :
    PassesOver behind lines := by
  induction lines with
  | nil => trivial
  | cons line rest ih =>
    rw [List.forall_mem_cons] at h
    exact ⟨endless?_of_inlineBody?_eq_none h.1 _, ih h.2⟩

theorem le_line_of_checkFrom {number : Nat} {lines : List Text} {finding : Finding}
    (h : checkFrom number lines = some finding) : number ≤ finding.line := by
  induction lines generalizing number with
  | nil => cases h
  | cons line rest ih =>
    rw [checkFrom] at h
    split at h
    · cases h
      exact Nat.le_refl _
    · exact Nat.le_of_succ_le (ih h)

/-- The scan passes over the lines in front of the one that it reports. -/
theorem passesOver_of_checkFrom {number : Nat} {lines behind : List Text} {finding : Finding}
    (h : checkFrom number (lines ++ behind) = some finding)
    (hline : number + lines.length ≤ finding.line) : PassesOver behind lines := by
  induction lines generalizing number with
  | nil => trivial
  | cons line rest ih =>
    rw [List.cons_append, checkFrom] at h
    rw [List.length_cons] at hline
    split at h
    · cases h
      dsimp only at hline
      omega
    · rename_i hnone
      exact ⟨hnone, ih h (by omega)⟩

/-! ## A line more -/

/-- A line with code that makes a loop of its own is no line without code. -/
theorem not_codeless_of_inlineBody? {line body : Text}
    (h : inlineBody? (statementOf line) = some body) : ¬ Codeless line := by
  intro hcodeless
  rw [hcodeless.statementOf_eq] at h
  cases h

/-- Lines in front of a header that the scan passes over are passed over still where a `break` is
inserted behind the header, deeper than it. -/
theorem PassesOver.insert_break {before between behind : List Text} {header line : Text}
    (h : PassesOver (header :: (between ++ behind)) before) (hheader : ¬ Codeless header)
    (hcode : ¬ Codeless line) (hbreak : hasBreak line = true)
    (hdeep : Text.indentation header < Text.indentation line) :
    PassesOver (header :: (between ++ line :: behind)) before := by
  induction before with
  | nil => trivial
  | cons earlier before ih =>
    refine ⟨?_, ih h.2⟩
    have hearlier := h.1
    rw [endless?_eq_none_iff] at hearlier ⊢
    intro body hbody
    specialize hearlier body hbody
    split at hearlier
    · rename_i hinline
      rw [if_pos hinline]
      rcases Nat.lt_or_ge (Text.indentation earlier) (Text.indentation header) with hlt | hge
      · -- the header stands in the earlier body, and so does the new line
        rw [← List.cons_append, ← List.append_assoc] at hearlier ⊢
        exact bodyBreaks_insert_break hcode hbreak (Nat.lt_trans hlt hdeep) hearlier
      · -- the header ends the earlier body, in front of the new line
        rwa [bodyBreaks_append_endsBody ⟨hheader, hge⟩]
    · rename_i hinline
      rwa [if_neg hinline]

section Margin

variable {margin : Text} (hmargin : Text.isBlankText margin = true)

include hmargin

theorem hasBreak_blanks_append (text : Text) : hasBreak (margin ++ text) = hasBreak text := by
  rw [hasBreak, code_blanks_append hmargin, hasBreak]
  rw [Text.isBlankText_iff] at hmargin
  induction margin with
  | nil => rfl
  | cons c margin ih =>
    rw [List.forall_mem_cons] at hmargin
    have hedge : (!isWord c) = true := by
      rw [Bool.not_eq_true', Bool.eq_false_iff]
      intro hword
      rw [Text.isBlank_eq_false_of_isWord hword] at hmargin
      cases hmargin.1
    rw [List.cons_append, Text.pieces, if_pos hedge, List.contains_cons]
    exact ih hmargin.2

theorem hasBreak_margin : hasBreak (margin ++ "break".toList) = true := by
  rw [hasBreak_blanks_append hmargin]
  decide +kernel

theorem indentation_margin : Text.indentation (margin ++ "break".toList) = margin.length :=
  Text.indentation_blanks_append hmargin _

theorem not_codeless_margin : ¬ Codeless (margin ++ "break".toList) := by
  rw [codeless_iff, Text.trim_blanks_append hmargin]
  decide

end Margin

/-- **Breaks.** Where the scan reports a header with nothing behind its colon, a `break` that is
inserted in the body, behind a margin longer than that of the header, leaves it nothing to report
but loops further down. And if no header stands in front, the lines behind the one that ends the
body do not matter to the report. -/
theorem break_settles_loop {before rest : List Text} {header body : Text} {finding : Finding}
    (hfound : check ⟨before ++ header :: rest⟩ = some finding)
    (hline : finding.line = before.length + 1)
    (hheader : inlineBody? (statementOf header) = some body)
    (hbody : Text.isBlankText body = true) :
    (∀ between behind margin, rest = between ++ behind →
      (∀ line ∈ between, ¬ EndsBody (Text.indentation header) line) →
      Text.isBlankText margin = true → Text.indentation header < margin.length →
      ∀ later, check ⟨before ++ header :: (between ++ (margin ++ "break".toList) :: behind)⟩ =
        some later → finding.line < later.line) ∧
    (∀ between ender behind others, rest = between ++ ender :: behind →
      EndsBody (Text.indentation header) ender →
      (∀ line ∈ before, inlineBody? (statementOf line) = none) →
      check ⟨before ++ header :: (between ++ ender :: others)⟩ = some finding) := by
  have hpasses : PassesOver (header :: rest) before :=
    passesOver_of_checkFrom hfound (by omega)
  have hinline : (Text.trim body).isEmpty = true := by
    rw [Text.trim_eq_nil_iff.2 hbody]
    rfl
  constructor
  · rintro between behind margin rfl hbetween hmargin hdeep later hlater
    rw [← indentation_margin hmargin] at hdeep
    have hcode := not_codeless_margin hmargin
    have hbreak := hasBreak_margin hmargin
    have hpasses' := hpasses.insert_break (not_codeless_of_inlineBody? hheader) hcode hbreak hdeep
    have hends : endless? header (between ++ (margin ++ "break".toList) :: behind) = none := by
      rw [endless?_eq_none_iff]
      intro body' hbody'
      obtain rfl : body = body' := Option.some.inj (hheader.symm.trans hbody')
      rw [if_pos hinline]
      exact bodyBreaks_append_break hcode hbreak hdeep hbetween behind
    rw [check, checkFrom_of_passesOver hpasses', checkFrom, hends] at hlater
    have hle := le_line_of_checkFrom hlater
    omega
  · rintro between ender behind others rfl hender hbefore
    have hpasses' : PassesOver (header :: (between ++ ender :: others)) before :=
      passesOver_of_inlineBody?_eq_none hbefore
    have hendless : endless? header (between ++ ender :: others) =
        endless? header (between ++ ender :: behind) := by
      unfold endless?
      rw [bodyBreaks_append_endsBody hender between behind others]
    rw [check, checkFrom_of_passesOver hpasses] at hfound
    rw [check, checkFrom_of_passesOver hpasses', checkFrom, hendless]
    rw [checkFrom] at hfound
    cases hcase : endless? header (between ++ ender :: behind) with
    | some found => rwa [hcase] at hfound
    | none =>
      rw [hcase] at hfound
      have hle := le_line_of_checkFrom hfound
      omega

/-- An endless loop in a loop that ends: a `break` between a blank line and the rest of its body,
and another header behind it. -/
theorem break_settles_loop_inside_for :
    let before := ["for i in range(3):".toList]
    let header := "  while True:  # on".toList
    let body := ["".toList, "    x = i".toList]
    let finding : Finding := ⟨"while True:".toList, 2⟩
    check ⟨before ++ header :: (body ++ ["  break".toList])⟩ = some finding ∧
      (∀ later, check ⟨before ++ header ::
        ["".toList, "\t \tbreak".toList, "    x = i".toList, "  break".toList]⟩ = some later →
        2 < later.line) ∧
      check ⟨before ++ header :: (body ++ ["  break".toList, "while 1:".toList])⟩ =
        some finding := by
  intro before header body finding
  have hfound : check ⟨before ++ header :: (body ++ ["  break".toList])⟩ = some finding := by
    decide +kernel
  obtain ⟨hbreak, hothers⟩ := break_settles_loop hfound (by decide) (by decide +kernel)
    (by decide : Text.isBlankText [] = true)
  refine ⟨hfound, ?_, ?_⟩
  · exact hbreak ["".toList] ["    x = i".toList, "  break".toList] "\t \t".toList rfl
      (by decide) (by decide) (by decide)
  · exact hothers body "  break".toList [] ["while 1:".toList] rfl (by decide) (by decide +kernel)

end Loop

end DryRun
