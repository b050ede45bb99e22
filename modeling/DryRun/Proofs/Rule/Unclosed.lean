import DryRun.Proofs.Bracket.Balance
import DryRun.Proofs.Rule.Message
import DryRun.Proofs.Rule.Sites
import DryRun.Verdict

/-!
# Unclosed brackets

Where the stack of openers is not empty at the end, some line opens more brackets of a kind than all
lines behind it close (`exists_line_never_closed`). The rule for the kind has advice for that line,
unless the line begins inside a string: so without such lines the rules find every unclosed opener
before the check of brackets does (`unclosed_opener_found_by_rule`).
-/

namespace DryRun

open DryRun.Bracket

/-! ## Lines of code -/

/-- A line that shows more than blanks is code, unless it begins inside a string. -/
theorem Site.isCode_of_mem_code {site : Site}
    (hscan : ∃ carried, site.scan = scanLine carried site.raw)
    (hstring : site.scan.continuesString = false) {c : Char} (hc : c ∈ site.scan.code)
    (hblank : Unicode.isBlank c = false) : site.isCode = true := by
  obtain ⟨carried, hscan⟩ := hscan
  have hcarried : carried = none := by
    rw [hscan] at hstring
    exact Option.not_isSome_iff_eq_none.1 (Bool.eq_false_iff.1 hstring)
  rw [hscan, hcarried] at hc
  have hhead : ∃ d, (Text.trim site.raw).head? = some d ∧ d ≠ '#' := by
    rw [head?_trim]
    apply Classical.byContradiction
    intro hnone
    have hline : ∀ d, (Text.trimStart site.raw).head? = some d → d = '#' := by
      intro d hd
      exact Classical.byContradiction fun hne => hnone ⟨d, hd, hne⟩
    rw [blank_of_mem_scanLine hline hc] at hblank
    cases hblank
  obtain ⟨d, hd, hne⟩ := hhead
  obtain ⟨rest, htrim⟩ := List.head?_eq_some_iff.1 hd
  unfold isCode
  rw [htrim, hstring]
  simp [hne]

theorem mem_code_of_netDepth_pos {bracket : Bracket} {scan : LineScan}
    (h : 0 < bracket.netDepth scan) : bracket.opener ∈ scan.code := by
  unfold netDepth LineScan.netDepth at h
  exact List.count_pos_iff.1 (by omega)

/-! ## What is left open -/

theorem total_pos_of_unclosed {source : Source} {opener : Opener}
    (h : check source = some (.unclosedOpener opener)) : 0 < total opener.bracket source.scans := by
  cases check_eq_some_iff.1 h with
  | closer _ _ hfault => cases hfault
  | unclosed hfitting hopen =>
    obtain ⟨stack, hstack⟩ := fitting_iff.1 hfitting
    obtain ⟨rest, rfl⟩ :=
      List.head?_eq_some_iff.1 ((innermostOpen_iff_of_openAfter hstack).1 hopen)
    have hbalance := balance_of_openAfter opener.bracket hstack
    have hzero : height opener.bracket [] = 0 := rfl
    rw [marks_eq_marksFrom, balance_marksFrom, height_cons, if_pos rfl, hzero] at hbalance
    omega

namespace Rule

theorem unclosed_mem_catalog (bracket : Bracket) : unclosed bracket ∈ catalog := by
  cases bracket <;> decide

/-- A line that leaves open what no line behind it closes is reported, if nothing before it is. -/
theorem exists_check_of_never_closed {source : Source} {earlier later : List LineScan}
    {scan : LineScan} {bracket : Bracket} (hscans : source.scans = earlier ++ scan :: later)
    (hstring : scan.continuesString = false)
    (hnever : Site.closesWithin bracket (bracket.netDepth scan) later = false) :
    ∃ diagnostic, check source = some diagnostic := by
  obtain ⟨site, hmem, rfl, rfl⟩ := Site.exists_mem_list hscans
  obtain ⟨before, behind, hsite⟩ := Site.exists_siteOf_of_mem hmem
  have hnet := pos_of_closesWithin_eq_false hnever
  have hcode : site.isCode = true :=
    Site.isCode_of_mem_code hsite.scan_eq hstring (mem_code_of_netDepth_pos hnet)
      (isBlank_char .opens bracket)
  have hcloses : site.closesLater bracket = false := hnever
  have hadvice : advice? site (unclosed bracket) = some (unclosedAdvice bracket site) := by
    rw [advice?, hcloses]
    simp [hnet]
  exact exists_check_of_advice hmem hcode (unclosed_mem_catalog bracket) hadvice

theorem exists_check_of_unclosed {source : Source} {opener : Opener}
    (hstring : ∀ scan ∈ source.scans, scan.continuesString = false)
    (h : Bracket.check source = some (.unclosedOpener opener)) :
    ∃ diagnostic, check source = some diagnostic := by
  obtain ⟨earlier, scan, later, hscans, hnever⟩ :=
    exists_line_never_closed (total_pos_of_unclosed h)
  have hmem : scan ∈ source.scans := by
    rw [hscans]
    exact List.mem_append_right _ List.mem_cons_self
  exact exists_check_of_never_closed hscans (hstring scan hmem) hnever

/-! ## Who reports it -/

/-- The rules report lines, not columns. -/
theorem column_eq_none_of_check {source : Source} {diagnostic : Diagnostic}
    (h : check source = some diagnostic) : diagnostic.column = none := by
  obtain ⟨site, -, -, rule, advice, -, rfl⟩ := exists_advice_of_check h
  rfl

/-- Of the faults only the last says that an opener was never closed. -/
theorem eq_unclosedOpener_of_neverClosed {fault : Fault} {bracket : Bracket}
    (h : fault.message = neverClosed bracket) : ∃ opener, fault = .unclosedOpener opener := by
  have hlead : lead fault.message = ['\'', bracket.opener] := by
    rw [h, lead_neverClosed]
  cases fault with
  | unclosedOpener opener => exact ⟨opener, rfl⟩
  | unexpectedCloser kind position =>
    unfold Fault.message at hlead
    rw [lead_append (by decide)] at hlead
    simp [lead] at hlead
  | mismatchedCloser kind position opener =>
    unfold Fault.message at hlead
    simp only [String.append_assoc] at hlead
    rw [lead_append (by decide)] at hlead
    simp [lead] at hlead

/-- **Unclosed openers.** Where no line begins inside a string, the rules report something on every
source with an unclosed opener, so that what says that a bracket was never closed has no column. -/
theorem unclosed_opener_found_by_rule {source : Source}
    (hstring : ∀ scan ∈ source.scans, scan.continuesString = false) :
    (∀ opener, Bracket.check source = some (.unclosedOpener opener) →
      ∃ diagnostic, check source = some diagnostic) ∧
    ∀ diagnostic bracket, checkSyntax source = some diagnostic →
      diagnostic.message = neverClosed bracket → diagnostic.column = none := by
  constructor
  · intro opener hopener
    exact exists_check_of_unclosed hstring hopener
  · intro diagnostic bracket hsyntax hmessage
    rcases Option.or_eq_some_iff.1 hsyntax with hrule | ⟨hnone, hfault⟩
    · exact column_eq_none_of_check hrule
    · -- the check of brackets has its turn only when the rules find nothing
      obtain ⟨fault, hcheck, rfl⟩ := Option.map_eq_some_iff.1 hfault
      obtain ⟨opener, rfl⟩ := eq_unclosedOpener_of_neverClosed hmessage
      obtain ⟨found, hrule⟩ := exists_check_of_unclosed hstring hcheck
      rw [hnone] at hrule
      cases hrule

/-- An opener on the fourth line, with brackets in a comment and on the line behind it. -/
theorem unclosed_opener_found_by_rule_behind_comment :
    let source := Source.ofText "f(1)\n# ]\n\ny = [0, (\n  2), 3".toList
    (∀ scan ∈ source.scans, scan.continuesString = false) ∧
      Bracket.check source = some (.unclosedOpener ⟨.square, ⟨4, 5⟩⟩) ∧
      ∃ diagnostic, check source = some diagnostic ∧
        checkSyntax source = some diagnostic ∧ diagnostic.column = none := by
  intro source
  have hstring : ∀ scan ∈ source.scans, scan.continuesString = false := by decide +kernel
  have hopener : Bracket.check source = some (.unclosedOpener ⟨.square, ⟨4, 5⟩⟩) := by
    decide +kernel
  obtain ⟨hfound, hcolumn⟩ := unclosed_opener_found_by_rule hstring
  obtain ⟨diagnostic, hrule⟩ := hfound _ hopener
  have hsyntax : checkSyntax source = some diagnostic := by
    rw [checkSyntax, hrule]
    rfl
  have hmessage : (check source).map (·.message) = some (neverClosed .square) := by
    decide +kernel
  rw [hrule] at hmessage
  exact ⟨hstring, hopener, diagnostic, hrule, hsyntax,
    hcolumn _ _ hsyntax (Option.some.inj hmessage)⟩

end Rule

end DryRun
