import DryRun.Proofs.Source.Columns
import DryRun.Rule

/-!
# Sites and advice

Every line of a source has its site, which holds the lines around it (`SiteOf`), and the check of a
source reports the advice of a rule for the site of a line of code (`exists_advice_of_check`).
-/

namespace DryRun

/-! ## Sites -/

/-- The site of the line behind some lines of a source. -/
structure SiteOf (source : Source) (before behind : List Text) (site : Site) : Prop where
  source_eq : site.source = source
  lines_eq : source.lines = before ++ site.raw :: behind
  scans_eq : source.scans = scanLines none before ++ site.scan :: site.later
  scan_eq : ∃ carried, site.scan = scanLine carried site.raw
  number_eq : site.number = before.length + 1
  depthBefore_eq : site.depthBefore = (scanLines none before).foldl Site.depthAfter 0

namespace Site

theorem mem_listFrom {source : Source} {number depth : Nat} {carried : Option Quote}
    {lines : List Text} {site : Site}
    (h : site ∈ listFrom source number depth lines (scanLines carried lines)) :
    ∃ before behind, site.source = source ∧ lines = before ++ site.raw :: behind ∧
      scanLines carried lines = scanLines carried before ++ site.scan :: site.later ∧
      (∃ carried', site.scan = scanLine carried' site.raw) ∧
      site.number = number + before.length ∧
      site.depthBefore = (scanLines carried before).foldl depthAfter depth := by
  induction lines generalizing number depth carried with
  | nil => cases h
  | cons line rest ih =>
    rw [scanLines, listFrom] at h
    rcases List.mem_cons.1 h with rfl | h
    · exact ⟨[], rest, rfl, rfl, rfl, ⟨carried, rfl⟩, rfl, rfl⟩
    · obtain ⟨before, behind, hsource, hlines, hscans, hscan, hnumber, hdepth⟩ := ih h
      refine ⟨line :: before, behind, hsource, by rw [hlines, List.cons_append], ?_, hscan, ?_, ?_⟩
      · rw [scanLines, hscans, scanLines, List.cons_append]
      · rw [hnumber, List.length_cons]
        omega
      · rw [hdepth, scanLines, List.foldl_cons]

theorem exists_siteOf_of_mem {source : Source} {site : Site} (h : site ∈ list source) :
    ∃ before behind, SiteOf source before behind site := by
  obtain ⟨before, behind, hsource, hlines, hscans, hscan, hnumber, hdepth⟩ := mem_listFrom h
  exact ⟨before, behind, hsource, hlines, hscans, hscan, by omega, hdepth⟩

theorem exists_mem_listFrom {source : Source} {number depth : Nat} {lines : List Text}
    {earlier later : List LineScan} {scan : LineScan}
    (h : lines.length = (earlier ++ scan :: later).length) :
    ∃ site ∈ listFrom source number depth lines (earlier ++ scan :: later),
      site.scan = scan ∧ site.later = later := by
  induction earlier generalizing number depth lines with
  | nil =>
    obtain ⟨line, rest, rfl⟩ := List.exists_cons_of_length_eq_add_one h
    exact ⟨_, List.mem_cons_self, rfl, rfl⟩
  | cons first earlier ih =>
    obtain ⟨line, rest, rfl⟩ := List.exists_cons_of_length_eq_add_one h
    obtain ⟨site, hmem, hscan, hlater⟩ := ih (Nat.succ.inj h)
    exact ⟨site, List.mem_cons_of_mem _ hmem, hscan, hlater⟩

/-- Every scan of a source is that of a site. -/
theorem exists_mem_list {source : Source} {earlier later : List LineScan} {scan : LineScan}
    (h : source.scans = earlier ++ scan :: later) :
    ∃ site ∈ list source, site.scan = scan ∧ site.later = later := by
  have hlength : source.lines.length = (earlier ++ scan :: later).length := by
    rw [← h, Source.scans, length_scanLines]
  unfold list
  rw [h]
  exact exists_mem_listFrom hlength

end Site

/-- A line of code begins outside strings. -/
theorem SiteOf.scan_eq_of_isCode {source : Source} {before behind : List Text} {site : Site}
    (hsite : SiteOf source before behind site) (hcode : site.isCode = true) :
    site.scan = scanLine none site.raw := by
  obtain ⟨carried, hscan⟩ := hsite.scan_eq
  cases carried with
  | none => exact hscan
  | some quote =>
    have hstring : site.scan.continuesString = true := by rw [hscan]; rfl
    simp [Site.isCode, hstring] at hcode

theorem SiteOf.line?_eq {source : Source} {before behind : List Text} {site : Site}
    (hsite : SiteOf source before behind site) : source.line? site.number = some site.raw := by
  rw [hsite.number_eq]
  show source.lines[before.length]? = some site.raw
  rw [hsite.lines_eq]
  simp

/-! ## Advice -/

namespace Rule

/-- What the check reports is the advice of a rule for the site of a line of code. -/
theorem exists_advice_of_check {source : Source} {diagnostic : Diagnostic}
    (h : check source = some diagnostic) :
    ∃ site ∈ Site.list source, site.isCode = true ∧ ∃ rule advice, advice? site rule = some advice ∧
      diagnostic = Diagnostic.ofLine site.source rule.kind site.number advice.message
        advice.suggestion := by
  obtain ⟨site, hmem, hline⟩ := List.exists_of_findSome?_eq_some h
  unfold diagnoseLine at hline
  split at hline
  · rename_i hcode
    obtain ⟨rule, -, hrule⟩ := List.exists_of_findSome?_eq_some hline
    obtain ⟨advice, hadvice, rfl⟩ := Option.map_eq_some_iff.1 hrule
    exact ⟨site, hmem, hcode, rule, advice, hadvice, rfl⟩
  · cases hline

/-- Where a rule of the catalog has advice for a line of code, the check reports something. -/
theorem exists_check_of_advice {source : Source} {site : Site} {rule : Rule} {advice : Advice}
    (hmem : site ∈ Site.list source) (hcode : site.isCode = true) (hrule : rule ∈ catalog)
    (hadvice : advice? site rule = some advice) : ∃ diagnostic, check source = some diagnostic := by
  rw [← Option.isSome_iff_exists, check, List.findSome?_isSome_iff]
  refine ⟨site, hmem, ?_⟩
  rw [diagnoseLine, if_pos hcode, List.findSome?_isSome_iff]
  refine ⟨rule, hrule, ?_⟩
  rw [diagnose, hadvice]
  rfl

end Rule

end DryRun
