import DryRun.Proofs.Rule.Report
import DryRun.Proofs.Source.Codeless

/-!
# Lines without code under the rules

A line without code is passed over by the rules, closes no bracket, and begins no definition and no
loop. So inserting one moves what the rules report and changes nothing else (`report?_insert`).
-/

namespace DryRun

open Rule

/-! ## Lines without code -/

namespace Codeless

variable {line : Text}

theorem isDefinitionLine_eq (h : Codeless line) : isDefinitionLine line = false := by
  unfold isDefinitionLine
  rcases h.trimStart_eq with hnil | ⟨note, hnote⟩
  · rw [hnil]
    rfl
  · rw [hnote]
    rfl

theorem isLoopLine_eq (h : Codeless line) : isLoopLine line = false := by
  have hhash : Unicode.isWord '#' = false := by decide
  unfold isLoopLine leadingWordIn leadingWord
  rcases h.trimStart_eq with hnil | ⟨note, hnote⟩
  · rw [hnil]
    rfl
  · rw [hnote, List.takeWhile_cons_of_neg (Bool.eq_false_iff.1 hhash)]
    rfl

theorem isCode_eq {site : Site} (h : Codeless site.raw) : site.isCode = false := by
  unfold Site.isCode
  rcases h.trim_eq with hnil | ⟨note, hnote⟩
  · rw [hnil]
    simp
  · rw [hnote]
    simp

end Codeless

theorem netDepth_of_isBlankText {scan : LineScan} (h : Text.isBlankText scan.code = true)
    (bracket : Bracket) : bracket.netDepth scan = 0 := by
  have hcount : ∀ c, Unicode.isBlank c = false → scan.code.count c = 0 := by
    intro c hc
    apply List.count_eq_zero.2
    intro hmem
    rw [Text.isBlankText_iff.1 h c hmem] at hc
    cases hc
  unfold Bracket.netDepth LineScan.netDepth
  rw [hcount _ (by cases bracket <;> decide), hcount _ (by cases bracket <;> decide)]
  rfl

namespace Site

variable {scan : LineScan} (h : Text.isBlankText scan.code = true)

include h

theorem depthAfter_of_isBlankText (depth : Nat) : depthAfter depth scan = depth := by
  unfold depthAfter
  rw [netDepth_of_isBlankText h, netDepth_of_isBlankText h, netDepth_of_isBlankText h]
  omega

theorem closesWithin_insert (bracket : Bracket) (depth : Int) (earlier later : List LineScan) :
    closesWithin bracket depth (earlier ++ scan :: later) =
      closesWithin bracket depth (earlier ++ later) := by
  induction earlier generalizing depth with
  | nil =>
    rw [List.nil_append, List.nil_append, closesWithin, netDepth_of_isBlankText h, Int.add_zero]
    cases later with
    | nil => simp [closesWithin]
    | cons next rest => simp [closesWithin]
  | cons first earlier ih => rw [List.cons_append, List.cons_append, closesWithin, closesWithin, ih]

end Site

/-! ## Reports -/

namespace Rule

/-- The report once a line is inserted behind so many others: the same rule and advice, on the moved
line and with its number where the advice has one. -/
def Report.moved (count : Nat) (report : Report) : Report :=
  { report with
    line := movedLine count report.line
    advice := report.rule.adviceAt (movedLine count report.line) report.advice }

theorem reportLine?_moved {site site' : Site} (h : site.Alike site')
    (hcloses : ∀ bracket, site'.closesLater bracket = site.closesLater bracket) {count : Nat}
    (hnumber : site'.number = movedLine count site.number) :
    reportLine? site' = (reportLine? site).map (Report.moved count) := by
  unfold reportLine?
  rw [h.isCode_eq]
  split
  · rw [List.map_findSome?]
    congr 1
    funext rule
    simp only [Function.comp_apply, reportOf?, h.advice?_eq fun _ => hcloses, Option.map_map,
      hnumber]
    rfl
  · rfl

section Insertion

variable {line : Text} (h : Codeless line) {before : List Text} (behind : List Text)

include h

theorem reportLine?_of_before (hopen : openBehind none before = none) {site : Site}
    (hsite : site ∈ Site.list ⟨before⟩) :
    reportLine? (site.followedBy before (line :: behind)) =
      (reportLine? (site.followedBy before behind)).map (Report.moved before.length) := by
  obtain ⟨margin, hmargin, hscan⟩ := h.exists_scanLine_eq
  have hearlier := Site.earlier_followedBy hsite
  have hnumber : site.number ≤ before.length := by
    have hlt := (Site.number_le_of_mem_listFrom hsite).2
    dsimp only at hlt
    omega
  apply reportLine?_moved
  · exact
      { raw_eq := rfl
        scan_eq := rfl
        depthBefore_eq := rfl
        definition_eq := by rw [hearlier, hearlier]
        loop_eq := by rw [hearlier, hearlier] }
  · intro bracket
    unfold Site.closesLater Site.followedBy
    dsimp only
    rw [hopen, scanLines, hscan]
    exact Site.closesWithin_insert hmargin bracket _ _ _
  · exact (movedLine_of_le hnumber).symm

theorem reportLine?_of_behind {depth : Nat} {site : Site}
    (hsite : site ∈ Site.listFrom ⟨before ++ behind⟩ (1 + before.length) depth behind
      (scanLines none behind)) :
    reportLine? { site with source := ⟨before ++ line :: behind⟩, number := site.number + 1 } =
      (reportLine? site).map (Report.moved before.length) := by
  obtain ⟨earlier, later, hsource, -, -, -, hnumber, -⟩ := Site.mem_listFrom hsite
  have hearlier : site.earlier = before ++ behind.take earlier.length := by
    unfold Site.earlier
    rw [hsource, hnumber, show 1 + before.length + earlier.length - 1 =
      before.length + earlier.length by omega, List.take_length_add_append]
  have hearlier' : Site.earlier
      { site with source := ⟨before ++ line :: behind⟩, number := site.number + 1 } =
        before ++ line :: behind.take earlier.length := by
    unfold Site.earlier
    dsimp only
    rw [hnumber, show 1 + before.length + earlier.length + 1 - 1 =
      before.length + (earlier.length + 1) by omega, List.take_length_add_append,
      List.take_succ_cons]
  apply reportLine?_moved
  · exact
      { raw_eq := rfl
        scan_eq := rfl
        depthBefore_eq := rfl
        definition_eq := by
          rw [hearlier, hearlier', List.any_append, List.any_append, List.any_cons,
            h.isDefinitionLine_eq, Bool.false_or]
        loop_eq := by
          rw [hearlier, hearlier', List.any_append, List.any_append, List.any_cons,
            h.isLoopLine_eq, Bool.false_or] }
  · intro bracket
    rfl
  · exact (movedLine_of_lt (by omega)).symm

/-- A line without code moves the report. -/
theorem report?_insert (hopen : openBehind none before = none) :
    report? ⟨before ++ line :: behind⟩ =
      (report? ⟨before ++ behind⟩).map (Report.moved before.length) := by
  obtain ⟨margin, hmargin, hscan⟩ := h.exists_scanLine_eq
  unfold report?
  rw [Site.list_append, Site.list_append, hopen, scanLines, Site.listFrom, hscan,
    Site.depthAfter_of_isBlankText hmargin, Site.listFrom_succ ⟨before ++ behind⟩,
    List.findSome?_append, List.findSome?_append, Option.map_or, List.findSome?_cons]
  congr 1
  · rw [List.map_findSome?, List.findSome?_map, List.findSome?_map]
    exact findSome?_congr fun site hsite => reportLine?_of_before h behind hopen hsite
  · have hline : reportLine?
        { source := ⟨before ++ line :: behind⟩, number := 1 + before.length, raw := line,
          scan := ⟨margin, none, false⟩, later := scanLines none behind,
          depthBefore := Site.depthBehind before } = none := by
      rw [reportLine?, Codeless.isCode_eq h]
      rfl
    rw [hline, List.map_findSome?, List.findSome?_map]
    exact findSome?_congr fun site hsite => reportLine?_of_behind h behind hsite

end Insertion

end Rule

end DryRun
