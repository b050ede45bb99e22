import DryRun.Proofs.Rule.Message
import DryRun.Proofs.Rule.Sites

/-!
# Reports

What the rules report of a source, apart from the snippet that goes with it: the rule, the line, and
the advice (`check_eq_map_report?`). A line has the same reports in two sources where it looks the
same to the rules (`Site.Alike`), but for its number; the rules that look ahead also need to see the
same brackets closed.
-/

namespace DryRun

/-! ## Sites of more lines -/

namespace Site

/-- Lines that follow go behind every site and bring their own. -/
theorem listFrom_append (source source' : Source) {lines : List Text} {scans : List LineScan}
    (h : lines.length = scans.length) (more : List Text) (moreScans : List LineScan)
    (number depth : Nat) :
    listFrom source' number depth (lines ++ more) (scans ++ moreScans) =
      (listFrom source number depth lines scans).map (fun site =>
        { site with source := source', later := site.later ++ moreScans }) ++
      listFrom source' (number + lines.length) (scans.foldl depthAfter depth) more moreScans := by
  induction lines generalizing scans number depth with
  | nil =>
    obtain rfl := List.eq_nil_of_length_eq_zero h.symm
    rfl
  | cons line lines ih =>
    obtain ⟨scan, scans, rfl⟩ := List.exists_cons_of_length_eq_add_one h.symm
    rw [List.cons_append, List.cons_append, listFrom, listFrom, List.map_cons, List.cons_append,
      ih (Nat.succ.inj h), List.foldl_cons, List.length_cons]
    congr 3
    omega

/-- The sites of the same lines in another source, one line further down. -/
theorem listFrom_succ (source source' : Source) (lines : List Text) (scans : List LineScan)
    (number depth : Nat) :
    listFrom source' (number + 1) depth lines scans =
      (listFrom source number depth lines scans).map fun site =>
        { site with source := source', number := site.number + 1 } := by
  induction lines generalizing scans number depth with
  | nil => rfl
  | cons line lines ih =>
    cases scans with
    | nil => rfl
    | cons scan scans =>
      rw [listFrom, listFrom, List.map_cons, ih]

theorem number_le_of_mem_listFrom {source : Source} {number depth : Nat} {carried : Option Quote}
    {lines : List Text} {site : Site}
    (h : site ∈ listFrom source number depth lines (scanLines carried lines)) :
    number ≤ site.number ∧ site.number < number + lines.length := by
  obtain ⟨before, behind, -, hlines, -, -, hnumber, -⟩ := mem_listFrom h
  rw [hlines, List.length_append, List.length_cons]
  omega

/-- A site of lines, where more lines follow them. -/
def followedBy (lines more : List Text) (site : Site) : Site :=
  { site with
    source := ⟨lines ++ more⟩
    later := site.later ++ scanLines (openBehind none lines) more }

/-- How many brackets are open behind lines. -/
def depthBehind (lines : List Text) : Nat := (scanLines none lines).foldl depthAfter 0

/-- The sites of lines in front of others, and those of the others. -/
theorem list_append (lines more : List Text) :
    list ⟨lines ++ more⟩ = (list ⟨lines⟩).map (followedBy lines more) ++
      listFrom ⟨lines ++ more⟩ (1 + lines.length) (depthBehind lines) more
        (scanLines (openBehind none lines) more) := by
  unfold list Source.scans
  dsimp only
  rw [scanLines_append, listFrom_append ⟨lines⟩ _ (length_scanLines none lines).symm]
  rfl

theorem earlier_followedBy {lines : List Text} {site : Site} (h : site ∈ list ⟨lines⟩)
    (more : List Text) : (site.followedBy lines more).earlier = site.earlier := by
  obtain ⟨before, behind, hsite⟩ := exists_siteOf_of_mem h
  have hlines : lines = before ++ site.raw :: behind := hsite.lines_eq
  have hlength : site.number - 1 ≤ lines.length := by
    rw [hsite.number_eq, hlines, List.length_append]
    omega
  unfold earlier followedBy
  rw [hsite.source_eq]
  exact List.take_append_of_le_length hlength

end Site

/-! ## Reports -/

namespace Rule

/-- What is reported of a source: a rule, the line it is about, and its advice. -/
structure Report where
  rule : Rule
  line : Nat
  advice : Advice
  deriving DecidableEq, Repr

/-- The diagnostic of a report. -/
def Report.toDiagnostic (source : Source) (report : Report) : Diagnostic :=
  Diagnostic.ofLine source report.rule.kind report.line report.advice.message
    report.advice.suggestion

/-- The report of a rule, if it has advice for a line. -/
def reportOf? (site : Site) (rule : Rule) : Option Report :=
  (advice? site rule).map fun advice => ⟨rule, site.number, advice⟩

/-- The report of the first rule that has advice for a line of code. -/
def reportLine? (site : Site) : Option Report :=
  if site.isCode then catalog.findSome? (reportOf? site) else none

/-- The report of the first line that a rule has advice for. -/
def report? (source : Source) : Option Report := (Site.list source).findSome? reportLine?

theorem reportOf?_eq_some_iff {site : Site} {rule : Rule} {report : Report} :
    reportOf? site rule = some report ↔
      report.rule = rule ∧ report.line = site.number ∧ advice? site rule = some report.advice := by
  unfold reportOf?
  rw [Option.map_eq_some_iff]
  constructor
  · rintro ⟨advice, hadvice, rfl⟩
    exact ⟨rfl, rfl, hadvice⟩
  · rintro ⟨rfl, hline, hadvice⟩
    exact ⟨report.advice, hadvice, by rw [← hline]⟩

theorem reportOf?_eq_none_iff {site : Site} {rule : Rule} :
    reportOf? site rule = none ↔ advice? site rule = none :=
  Option.map_eq_none_iff

theorem diagnoseLine_eq_map_reportLine? (site : Site) :
    diagnoseLine site = (reportLine? site).map (·.toDiagnostic site.source) := by
  unfold diagnoseLine reportLine?
  split
  · rw [List.map_findSome?]
    congr 1
    funext rule
    simp only [Function.comp_apply, diagnose, reportOf?, Option.map_map]
    rfl
  · rfl

theorem findSome?_congr {α β : Type} {f g : α → Option β} {items : List α}
    (h : ∀ item ∈ items, f item = g item) : items.findSome? f = items.findSome? g := by
  induction items with
  | nil => rfl
  | cons item rest ih =>
    rw [List.forall_mem_cons] at h
    rw [List.findSome?_cons, List.findSome?_cons, h.1, ih h.2]

/-- The check of a source shows what is reported, with the snippet of the source. -/
theorem check_eq_map_report? (source : Source) :
    check source = (report? source).map (·.toDiagnostic source) := by
  unfold check report?
  rw [List.map_findSome?]
  apply findSome?_congr
  intro site hmem
  obtain ⟨before, behind, hsite⟩ := Site.exists_siteOf_of_mem hmem
  rw [diagnoseLine_eq_map_reportLine?, hsite.source_eq]
  rfl

/-! ## Lines that look the same -/

/-- The text that reports an open string on a line. -/
def openString (line : Nat) : String :=
  "unterminated string literal (detected at line " ++ toString line ++ ")"

/-- The advice of a rule as it is for a line of the given number: open strings are reported with the
number. -/
def adviceAt (rule : Rule) (line : Nat) (advice : Advice) : Advice :=
  match rule with
  | unterminated _ => { advice with message := openString line }
  | _ => advice

theorem adviceAt_eq_id {rule : Rule} (h : ∀ quote, rule ≠ unterminated quote) (line : Nat) :
    rule.adviceAt line = id := by
  cases rule with
  | unterminated quote => exact absurd rfl (h quote)
  | _ => rfl

/-- Whether the rule looks at the lines that follow. -/
def looksAhead : Rule → Bool
  | missingColon | unclosed _ => true
  | _ => false

end Rule

/-- A line that looks the same in two sources, but for its number and what follows it. -/
structure Site.Alike (site site' : Site) : Prop where
  raw_eq : site'.raw = site.raw
  scan_eq : site'.scan = site.scan
  depthBefore_eq : site'.depthBefore = site.depthBefore
  definition_eq : site'.earlier.any Rule.isDefinitionLine = site.earlier.any Rule.isDefinitionLine
  loop_eq : site'.earlier.any Rule.isLoopLine = site.earlier.any Rule.isLoopLine

namespace Site.Alike

open Rule

variable {site site' : Site}

theorem code_eq (h : site.Alike site') : site'.code = site.code := by
  unfold code
  rw [h.scan_eq]

theorem text_eq (h : site.Alike site') : site'.text = site.text := by
  unfold text
  rw [h.raw_eq]

theorem isCode_eq (h : site.Alike site') : site'.isCode = site.isCode := by
  unfold isCode
  rw [h.raw_eq, h.scan_eq]

theorem isContinued_eq (h : site.Alike site')
    (hcloses : ∀ bracket, site'.closesLater bracket = site.closesLater bracket) :
    isContinued site' = isContinued site := by
  unfold isContinued
  rw [h.depthBefore_eq, h.code_eq, h.scan_eq]
  simp only [hcloses]

theorem missingColonAdvice_eq (h : site.Alike site') :
    missingColonAdvice site' = missingColonAdvice site := by
  unfold missingColonAdvice
  rw [h.code_eq, h.text_eq]

theorem unclosedAdvice_eq (h : site.Alike site') (bracket : Bracket) :
    unclosedAdvice bracket site' = unclosedAdvice bracket site := by
  unfold unclosedAdvice
  rw [h.scan_eq]

theorem assignmentAdvice_eq (h : site.Alike site') :
    assignmentAdvice site' = assignmentAdvice site := by
  funext place
  unfold assignmentAdvice
  rw [h.raw_eq]

/-- Lines that look the same get the same advice, apart from open strings. -/
theorem advice?_eq_of_ne (h : site.Alike site') {rule : Rule}
    (hquote : ∀ quote, rule ≠ unterminated quote)
    (hahead : rule.looksAhead = true →
      ∀ bracket, site'.closesLater bracket = site.closesLater bracket) :
    advice? site' rule = advice? site rule := by
  cases rule with
  | unterminated quote => exact absurd rfl (hquote quote)
  | missingColon =>
    rw [advice?, advice?, h.code_eq, h.isContinued_eq (hahead rfl), h.missingColonAdvice_eq]
  | unclosed bracket => rw [advice?, advice?, h.scan_eq, hahead rfl, h.unclosedAdvice_eq]
  | assignmentInCondition => rw [advice?, advice?, h.code_eq, h.scan_eq, h.assignmentAdvice_eq]
  | barePrint => rw [advice?, advice?, h.code_eq, h.text_eq]
  | missingComma => rw [advice?, advice?, h.text_eq]
  | mixedIndentation => rw [advice?, advice?, h.raw_eq]
  | returnOutsideFunction => rw [advice?, advice?, h.raw_eq, h.definition_eq]
  | jumpOutsideLoop => rw [advice?, advice?, h.code_eq, h.loop_eq]
  | bareDefinition | digitName | keywordAssignment => rw [advice?, advice?, h.code_eq]

/-- Lines that look the same get the same advice, but for the number in it. -/
theorem advice?_eq (h : site.Alike site') {rule : Rule}
    (hahead : rule.looksAhead = true →
      ∀ bracket, site'.closesLater bracket = site.closesLater bracket) :
    advice? site' rule = (advice? site rule).map (rule.adviceAt site'.number) := by
  by_cases hquote : ∀ quote, rule ≠ unterminated quote
  · rw [adviceAt_eq_id hquote, Option.map_id, h.advice?_eq_of_ne hquote hahead, id]
  · obtain ⟨quote, hrule⟩ := not_forall.1 hquote
    obtain rfl := not_not.1 hrule
    rw [advice?, advice?, h.text_eq]
    split <;> rfl

end Site.Alike

namespace Rule

theorem adviceAt_number {site : Site} {rule : Rule} {advice : Advice}
    (h : advice? site rule = some advice) : rule.adviceAt site.number advice = advice := by
  by_cases hquote : ∀ quote, rule ≠ unterminated quote
  · rw [adviceAt_eq_id hquote, id]
  · obtain ⟨quote, hrule⟩ := not_forall.1 hquote
    obtain rfl := not_not.1 hrule
    obtain rfl := eq_of_ite_some h
    rfl

end Rule

end DryRun
