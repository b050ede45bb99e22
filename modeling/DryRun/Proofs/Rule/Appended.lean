import DryRun.Proofs.Bracket.Balance
import DryRun.Proofs.Rule.Report
import DryRun.Proofs.Text.Pieces

/-!
# Lines that follow

What follows a line may close its brackets and go on with its statement, and the rules see nothing
else of it. So lines that are appended bring no report on a line before the first one reported, and
take back no report but of an unclosed bracket or a missing colon (`check_append`).
-/

namespace DryRun

/-! ## Sites with more behind them -/

/-- The same line where more lines follow. -/
structure Site.Followed (site site' : Site) : Prop extends site.Alike site' where
  number_eq : site'.number = site.number
  closesLater_of : ∀ bracket, site.closesLater bracket = true → site'.closesLater bracket = true

namespace Site

theorem closesWithin_append {bracket : Bracket} {depth : Int} {later : List LineScan}
    (h : closesWithin bracket depth later = true) (more : List LineScan) :
    closesWithin bracket depth (later ++ more) = true := by
  obtain ⟨inside, behind, rfl, hle⟩ := Bracket.closesWithin_iff.1 h
  exact Bracket.closesWithin_iff.2 ⟨inside, behind ++ more, List.append_assoc .., hle⟩

theorem followed_followedBy {lines : List Text} {site : Site} (h : site ∈ list ⟨lines⟩)
    (more : List Text) : site.Followed (site.followedBy lines more) := by
  have hearlier := earlier_followedBy h more
  exact
    { raw_eq := rfl
      scan_eq := rfl
      depthBefore_eq := rfl
      definition_eq := by rw [hearlier]
      loop_eq := by rw [hearlier]
      number_eq := rfl
      closesLater_of := fun bracket hcloses => closesWithin_append hcloses _ }

theorem pairwise_number_listFrom (source : Source) (number depth : Nat) (carried : Option Quote)
    (lines : List Text) :
    (listFrom source number depth lines (scanLines carried lines)).Pairwise
      fun site later => site.number < later.number := by
  induction lines generalizing number depth carried with
  | nil => exact .nil
  | cons line rest ih =>
    rw [scanLines, listFrom, List.pairwise_cons]
    exact ⟨fun later hlater => (number_le_of_mem_listFrom hlater).1, ih _ _ _⟩

end Site

namespace Rule

/-! ## Advice where more follows -/

section Followed

variable {site site' : Site} (h : site.Followed site')

include h

theorem isContinued_of_followed (hcontinued : isContinued site = true) :
    isContinued site' = true := by
  unfold isContinued at hcontinued ⊢
  rw [h.depthBefore_eq, h.code_eq, h.scan_eq]
  simp only [Bool.or_eq_true, List.any_eq_true, Bool.and_eq_true] at hcontinued ⊢
  rcases hcontinued with hbefore | ⟨bracket, hbracket, hnet, hcloses⟩
  · exact Or.inl hbefore
  · exact Or.inr ⟨bracket, hbracket, hnet, h.closesLater_of bracket hcloses⟩

/-- A rule that has no advice has none when more lines follow. -/
theorem advice?_eq_none_of_followed {rule : Rule} (hnone : advice? site rule = none) :
    advice? site' rule = none := by
  cases hahead : rule.looksAhead with
  | false =>
    rw [h.advice?_eq (by simp [hahead]), hnone, Option.map_none]
  | true =>
    cases rule with
    | missingColon =>
      rw [advice?, ite_eq_right_iff] at hnone ⊢
      intro hlacks
      rw [h.code_eq, Bool.and_eq_true, Bool.not_eq_true'] at hlacks
      -- what is not continued here was not continued before
      refine absurd (hnone ?_) (Option.some_ne_none _)
      rw [hlacks.1, Bool.true_and, Bool.not_eq_true']
      by_contra hcontinued
      rw [isContinued_of_followed h (eq_true_of_ne_false hcontinued)] at hlacks
      cases hlacks.2
    | unclosed bracket =>
      rw [advice?, ite_eq_right_iff] at hnone ⊢
      intro hopen
      rw [h.scan_eq, Bool.and_eq_true, Bool.not_eq_true'] at hopen
      refine absurd (hnone ?_) (Option.some_ne_none _)
      rw [hopen.1, Bool.true_and, Bool.not_eq_true']
      by_contra hcloses
      rw [h.closesLater_of bracket (eq_true_of_ne_false hcloses)] at hopen
      cases hopen.2
    | _ => cases hahead

theorem advice?_of_followed {rule : Rule} (hahead : rule.looksAhead = false) {advice : Advice}
    (hadvice : advice? site rule = some advice) : advice? site' rule = some advice := by
  rw [h.advice?_eq (by simp [hahead]), hadvice, Option.map_some, h.number_eq,
    adviceAt_number hadvice]

theorem reportLine?_eq_none_of_followed (hnone : reportLine? site = none) :
    reportLine? site' = none := by
  unfold reportLine? at hnone ⊢
  rw [h.isCode_eq]
  split at hnone
  · rename_i hcode
    rw [if_pos hcode]
    rw [List.findSome?_eq_none_iff] at hnone ⊢
    intro rule hrule
    rw [reportOf?_eq_none_iff]
    exact advice?_eq_none_of_followed h (reportOf?_eq_none_iff.1 (hnone rule hrule))
  · rename_i hcode
    rw [if_neg hcode]

/-- The report of a rule that does not look ahead stands, since no rule before it speaks up. -/
theorem reportLine?_of_followed {report : Report} (hahead : report.rule.looksAhead = false)
    (hreport : reportLine? site = some report) : reportLine? site' = some report := by
  unfold reportLine? at hreport ⊢
  rw [h.isCode_eq]
  split at hreport
  · rename_i hcode
    rw [if_pos hcode]
    rw [List.findSome?_eq_some_iff] at hreport ⊢
    obtain ⟨before, rule, behind, hcatalog, hrule, hnone⟩ := hreport
    refine ⟨before, rule, behind, hcatalog, ?_, fun other hother => ?_⟩
    · rw [reportOf?_eq_some_iff, h.number_eq] at *
      obtain ⟨rfl, hline, hadvice⟩ := hrule
      exact ⟨rfl, hline, advice?_of_followed h hahead hadvice⟩
    · rw [reportOf?_eq_none_iff]
      exact advice?_eq_none_of_followed h (reportOf?_eq_none_iff.1 (hnone other hother))
  · cases hreport

end Followed

/-! ## Reports where more follows -/

theorem line_eq_of_reportLine? {site : Site} {report : Report}
    (h : reportLine? site = some report) :
    report.line = site.number ∧ advice? site report.rule = some report.advice := by
  unfold reportLine? at h
  split at h
  · obtain ⟨rule, -, hrule⟩ := List.exists_of_findSome?_eq_some h
    obtain ⟨rfl, hline, hadvice⟩ := reportOf?_eq_some_iff.1 hrule
    exact ⟨hline, hadvice⟩
  · cases h

/-- Lines that follow bring no report to lines without one. -/
theorem lt_line_of_report?_eq_none {lines more : List Text} (h : report? ⟨lines⟩ = none)
    {report : Report} (hreport : report? ⟨lines ++ more⟩ = some report) :
    lines.length < report.line := by
  unfold report? at h hreport
  rw [List.findSome?_eq_none_iff] at h
  obtain ⟨site, hmem, hsite⟩ := List.exists_of_findSome?_eq_some hreport
  rw [(line_eq_of_reportLine? hsite).1]
  rw [Site.list_append, List.mem_append, List.mem_map] at hmem
  rcases hmem with ⟨before, hbefore, rfl⟩ | hmem
  · rw [reportLine?_eq_none_of_followed (Site.followed_followedBy hbefore more)
      (h before hbefore)] at hsite
    cases hsite
  · have hle := (Site.number_le_of_mem_listFrom hmem).1
    omega

/-- Lines that follow leave the lines before the first report without one, and leave the report
itself if its rule does not look ahead. -/
theorem report?_append {lines : List Text} {report : Report} (h : report? ⟨lines⟩ = some report)
    (more : List Text) :
    (∀ report', report? ⟨lines ++ more⟩ = some report' → report.line ≤ report'.line) ∧
      (report.rule.looksAhead = false → report? ⟨lines ++ more⟩ = some report) := by
  obtain ⟨earlier, site, later, hsites, hsite, hnone⟩ := List.findSome?_eq_some_iff.1 h
  have hfollowed : ∀ other ∈ Site.list ⟨lines⟩, other.Followed (other.followedBy lines more) :=
    fun other hother => Site.followed_followedBy hother more
  have hnumbers := Site.pairwise_number_listFrom ⟨lines⟩ 1 0 none lines
  rw [← Source.scans, ← Site.list, hsites, List.pairwise_append, List.pairwise_cons] at hnumbers
  have hmem : site ∈ Site.list ⟨lines⟩ := by
    rw [hsites]
    exact List.mem_append_right _ List.mem_cons_self
  have hsilent : (earlier.map (Site.followedBy lines more)).findSome? reportLine? = none := by
    rw [List.findSome?_eq_none_iff, List.forall_mem_map]
    intro other hother
    have hother' : other ∈ Site.list ⟨lines⟩ := by
      rw [hsites]
      exact List.mem_append_left _ hother
    exact reportLine?_eq_none_of_followed (hfollowed other hother') (hnone other hother)
  rw [report?, Site.list_append, hsites, List.map_append, List.append_assoc,
    List.findSome?_append, hsilent, Option.none_or, List.map_cons, List.cons_append]
  constructor
  · intro report' hreport'
    obtain ⟨site', hmem', hsite'⟩ := List.exists_of_findSome?_eq_some hreport'
    rw [(line_eq_of_reportLine? hsite).1, (line_eq_of_reportLine? hsite').1]
    rcases List.mem_cons.1 hmem' with rfl | hmem'
    · exact Nat.le_refl _
    rcases List.mem_append.1 hmem' with hlater | hbehind'
    · obtain ⟨other, hother, rfl⟩ := List.mem_map.1 hlater
      exact Nat.le_of_lt (hnumbers.2.1.1 other hother)
    · have hlt := (Site.number_le_of_mem_listFrom hmem).2
      have hle := (Site.number_le_of_mem_listFrom hbehind').1
      dsimp only at hlt
      omega
  · intro hahead
    rw [List.findSome?_cons, reportLine?_of_followed (hfollowed site hmem) hahead hsite]

/-- What the rules that look ahead report is an unclosed bracket or a missing colon. -/
theorem looksAhead_eq_false {site : Site} {rule : Rule} {advice : Advice}
    (h : advice? site rule = some advice)
    (hbracket : ∀ bracket, advice.message ≠ neverClosed bracket)
    (hcolon : ∀ word, advice.message ≠ colonExpected word) : rule.looksAhead = false := by
  cases rule with
  | missingColon =>
    obtain rfl := eq_of_ite_some h
    exact absurd rfl (hcolon _)
  | unclosed bracket =>
    obtain rfl := eq_of_ite_some h
    exact absurd rfl (hbracket bracket)
  | _ => rfl

/-- The first line that the rules report of a source, or the one behind its last. -/
def firstReported (source : Source) : Nat :=
  match check source with
  | some diagnostic => diagnostic.line
  | none => source.size + 1

/-- **Appended lines.** Whatever is appended to a text, the rules report nothing of it in front of
the first line that they report of the text alone. A diagnostic stays as it is, but for the snippet,
unless it is that of an unclosed bracket or a missing colon. -/
theorem check_append (a b : Text) :
    (∀ diagnostic, check (.ofText (a ++ '\n' :: b)) = some diagnostic →
      firstReported (.ofText a) ≤ diagnostic.line) ∧
    (∀ diagnostic, check (.ofText a) = some diagnostic →
      (∀ bracket, diagnostic.message ≠ neverClosed bracket) →
      (∀ word, diagnostic.message ≠ colonExpected word) →
      check (.ofText (a ++ '\n' :: b)) = some
        { diagnostic with
          snippet := Diagnostic.snippetOf (.ofText (a ++ '\n' :: b)) diagnostic.line }) := by
  have hlines : Source.ofText (a ++ '\n' :: b) = ⟨Text.lines a ++ Text.lines b⟩ :=
    congrArg Source.mk (Text.lines_append a b)
  unfold firstReported
  rw [hlines, check_eq_map_report?, check_eq_map_report?]
  cases hreport : report? (.ofText a) with
  | none =>
    constructor
    · intro diagnostic hdiagnostic
      obtain ⟨report', hreport', rfl⟩ := Option.map_eq_some_iff.1 hdiagnostic
      exact lt_line_of_report?_eq_none hreport hreport'
    · intro diagnostic hdiagnostic
      cases hdiagnostic
  | some report =>
    obtain ⟨hfirst, hstays⟩ := report?_append hreport (Text.lines b)
    constructor
    · intro diagnostic hdiagnostic
      obtain ⟨report', hreport', rfl⟩ := Option.map_eq_some_iff.1 hdiagnostic
      exact hfirst report' hreport'
    · intro diagnostic hdiagnostic hbracket hcolon
      obtain rfl := Option.some.inj hdiagnostic
      obtain ⟨site, -, hsite⟩ := List.exists_of_findSome?_eq_some hreport
      have hadvice := (line_eq_of_reportLine? hsite).2
      rw [hstays (looksAhead_eq_false hadvice hbracket hcolon)]
      rfl

/-- A `print` without parentheses behind a call over two lines, and a missing colon appended. -/
theorem check_append_behind_bare_print :
    let a := "y = f(1,\n  2)\nprint y".toList
    let b := "if z".toList
    ∃ diagnostic, check (.ofText a) = some diagnostic ∧ diagnostic.line = 3 ∧
      diagnostic.message = (barePrintAdvice []).message ∧
      check (.ofText (a ++ '\n' :: b)) = some
        { diagnostic with
          snippet := Diagnostic.snippetOf (.ofText (a ++ '\n' :: b)) diagnostic.line } := by
  intro a b
  have hcheck : (check (.ofText a)).map (fun found => (found.line, found.message)) =
      some (3, (barePrintAdvice []).message) := by decide +kernel
  obtain ⟨diagnostic, hdiagnostic, hfound⟩ := Option.map_eq_some_iff.1 hcheck
  obtain ⟨hline, hmessage⟩ := Prod.mk.inj hfound
  have hlead : lead diagnostic.message = ['M', 'i'] := by rw [hmessage]; rfl
  refine ⟨diagnostic, hdiagnostic, hline, hmessage,
    (check_append a b).2 diagnostic hdiagnostic ?_ ?_⟩
  · intro bracket heq
    rw [heq, lead_neverClosed] at hlead
    cases hlead
  · intro word heq
    rw [heq, lead_colonExpected] at hlead
    cases hlead

end Rule

end DryRun
