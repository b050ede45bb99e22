import Mathlib.Data.List.Nodup
import DryRun.Proofs.Rule.Insertion
import DryRun.Proofs.Rule.Unclosed

/-!
# Where diagnostics point

A diagnostic names a line of its source and shows it between its neighbours (`ShownAround`). The
rules report lines that begin outside strings and hold more than a comment; the check of brackets
reports, with its column, a bracket that stands in the line (`checkSyntax_well_placed`).

1. The lines of a source that are shown.
2. Places of brackets.
3. Lines that rules report.
4. The diagnostics of a source.
-/

namespace DryRun

open DryRun.Bracket

/-! ## Lines that are shown -/

/-- Lines shown for a line of a source: those from the line before it to the line behind it, as far
as the source has them, with the line itself marked. -/
structure ShownAround (source : Source) (line : Nat) (shown : List SnippetLine) : Prop where
  line_pos : 1 ≤ line
  line_le : line ≤ source.size
  numbers_eq : shown.map (·.number) =
    List.range' (max 1 (line - 1)) (min source.size (line + 1) + 1 - max 1 (line - 1))
  text_eq : ∀ entry ∈ shown, (source.line? entry.number).map String.ofList = some entry.text
  isErrorLine_iff : ∀ entry ∈ shown, entry.isErrorLine = true ↔ entry.number = line
  countP_eq : shown.countP (·.isErrorLine) = 1

theorem Source.mem_numbered {source : Source} {text : Text} {number : Nat} :
    (text, number) ∈ source.numbered ↔ source.line? number = some text := by
  unfold numbered
  rw [List.mk_mem_zipIdx_iff_le_and_getElem?_sub]
  cases number with
  | zero => simp [line?]
  | succ number => simp [line?]

theorem Source.bounds_of_line? {source : Source} {number : Nat} {text : Text}
    (h : source.line? number = some text) : 1 ≤ number ∧ number ≤ source.size := by
  cases number with
  | zero => cases h
  | succ number =>
    obtain ⟨hlt, -⟩ := List.getElem?_eq_some_iff.1 h
    exact ⟨by omega, hlt⟩

/-- The numbers of a range that lie between two bounds. -/
theorem filter_range' (low high start count : Nat) :
    (List.range' start count).filter (fun n => decide (low ≤ n) && decide (n ≤ high)) =
      List.range' (max start low) (min (start + count) (high + 1) - max start low) := by
  induction count generalizing start with
  | zero =>
    have hnone : min (start + 0) (high + 1) - max start low = 0 := by omega
    rw [hnone]
    rfl
  | succ count ih =>
    rw [List.range'_succ, List.filter_cons, ih]
    by_cases hlow : low ≤ start
    · by_cases hhigh : start ≤ high
      · have hcount : min (start + (count + 1)) (high + 1) - max start low =
            min (start + 1 + count) (high + 1) - max (start + 1) low + 1 := by omega
        have hstart : max start low = start := by omega
        have hnext : max (start + 1) low = start + 1 := by omega
        simp only [hlow, hhigh, decide_true, Bool.and_self, if_true]
        rw [hcount, hstart, hnext, List.range'_succ]
      · have hcount : min (start + (count + 1)) (high + 1) - max start low = 0 := by omega
        have hnext : min (start + 1 + count) (high + 1) - max (start + 1) low = 0 := by omega
        simp [hhigh, hcount, hnext]
    · have hstart : max (start + 1) low = max start low := by omega
      have hend : start + 1 + count = start + (count + 1) := by omega
      simp [hlow, hstart, hend]

namespace Diagnostic

theorem mem_snippetOf {source : Source} {line : Nat} {entry : SnippetLine} :
    entry ∈ snippetOf source line ↔
      ∃ text, source.line? entry.number = some text ∧ entry.text = String.ofList text ∧
        entry.isErrorLine = (entry.number == line) ∧
        line ≤ entry.number + 1 ∧ entry.number ≤ line + 1 := by
  unfold snippetOf
  rw [List.mem_map]
  constructor
  · rintro ⟨⟨text, number⟩, hmem, rfl⟩
    obtain ⟨hline, hnear⟩ := List.mem_filter.1 hmem
    rw [Bool.and_eq_true, decide_eq_true_eq, decide_eq_true_eq] at hnear
    exact ⟨text, Source.mem_numbered.1 hline, rfl, rfl, hnear⟩
  · rintro ⟨text, hline, htext, herror, hnear⟩
    refine ⟨(text, entry.number), List.mem_filter.2 ⟨Source.mem_numbered.2 hline, ?_⟩, ?_⟩
    · rw [Bool.and_eq_true, decide_eq_true_eq, decide_eq_true_eq]
      exact hnear
    · show SnippetLine.mk entry.number (String.ofList text) (entry.number == line) = entry
      rw [← htext, ← herror]

theorem map_number_snippetOf (source : Source) (line : Nat) :
    (snippetOf source line).map (·.number) =
      List.range' (max 1 (line - 1)) (min source.size (line + 1) + 1 - max 1 (line - 1)) := by
  have hnumbers : source.numbered.map Prod.snd = List.range' 1 source.size :=
    List.zipIdx_map_snd 1 source.lines
  have hnear : (fun n : Nat => decide (line ≤ n + 1) && decide (n ≤ line + 1)) =
      fun n => decide (line - 1 ≤ n) && decide (n ≤ line + 1) := by
    funext n
    rw [decide_eq_decide.2 (Nat.sub_le_iff_le_add (a := line) (b := 1) (c := n))]
  have hcount : min (1 + source.size) (line + 1 + 1) = min source.size (line + 1) + 1 := by omega
  calc (snippetOf source line).map (·.number)
      = (source.numbered.filter
          ((fun n => decide (line ≤ n + 1) && decide (n ≤ line + 1)) ∘ Prod.snd)).map
            Prod.snd := by
        rw [snippetOf, List.map_map]
        rfl
    _ = (List.range' 1 source.size).filter
          fun n => decide (line - 1 ≤ n) && decide (n ≤ line + 1) := by
        rw [← List.filter_map, hnumbers, hnear]
    _ = _ := by rw [filter_range', hcount]

theorem shownAround_snippetOf {source : Source} {line : Nat} {text : Text}
    (h : source.line? line = some text) : ShownAround source line (snippetOf source line) := by
  obtain ⟨hpos, hle⟩ := Source.bounds_of_line? h
  have herror : ∀ entry ∈ snippetOf source line,
      entry.isErrorLine = true ↔ entry.number = line := by
    intro entry hentry
    obtain ⟨-, -, -, herror, -⟩ := mem_snippetOf.1 hentry
    rw [herror, beq_iff_eq]
  refine ⟨hpos, hle, map_number_snippetOf source line, ?_, herror, ?_⟩
  · intro entry hentry
    obtain ⟨shown, hline, htext, -⟩ := mem_snippetOf.1 hentry
    rw [hline, htext]
    rfl
  · have hcount : (snippetOf source line).countP (·.isErrorLine) =
        ((snippetOf source line).map (·.number)).count line := by
      rw [List.count, List.countP_map]
      apply List.countP_congr
      intro entry hentry
      rw [herror entry hentry]
      exact beq_iff_eq.symm
    rw [hcount, map_number_snippetOf]
    apply List.count_eq_one_of_mem List.nodup_range'
    rw [List.mem_range'_1]
    omega

end Diagnostic

/-! ## Places of brackets -/

theorem exists_line_of_charAt? {source : Source} {place : Position} {c : Char}
    (h : charAt? source.lines place = some c) :
    ∃ text, source.line? place.line = some text ∧ 1 ≤ place.column ∧
      text[place.column - 1]? = some c := by
  obtain ⟨line, column⟩ := place
  obtain _ | line := line
  · cases h
  obtain _ | column := column
  · cases h
  obtain ⟨text, hline, hchar⟩ := Option.bind_eq_some_iff.1 h
  exact ⟨text, hline, Nat.succ_pos column, hchar⟩

/-- The bracket at fault stands in its line, at its column. -/
theorem Bracket.exists_bracket_of_check {source : Source} {fault : Fault}
    (h : check source = some fault) :
    ∃ text c, source.line? fault.position.line = some text ∧ 1 ≤ fault.position.column ∧
      text[fault.position.column - 1]? = some c ∧ isBracket c = true := by
  obtain ⟨mark, hmem, hposition, -⟩ := (check_eq_some_iff.1 h).exists_mark
  obtain ⟨text, hline, hcolumn, hchar⟩ := exists_line_of_charAt? (charAt?_lines_of_mem_marks hmem)
  rw [← hposition] at hline hcolumn hchar
  exact ⟨text, mark.char, hline, hcolumn, hchar, isBracket_char _ _⟩

/-! ## Lines that rules report -/

/-- A line begins inside a string when one is open behind the lines before it. -/
theorem SiteOf.continuesString_eq {source : Source} {before behind : List Text} {site : Site}
    (h : SiteOf source before behind site) :
    site.scan.continuesString = (openBehind none before).isSome := by
  have hscans := h.scans_eq
  rw [Source.scans, h.lines_eq, scanLines_around] at hscans
  have hscan := (List.cons.inj (List.append_cancel_left hscans)).1
  rw [← hscan]
  rfl

namespace Rule

/-- A line that a rule reports holds code, and begins outside strings. -/
theorem exists_line_of_check {source : Source} {diagnostic : Diagnostic}
    (h : check source = some diagnostic) :
    ∃ before line behind, source.lines = before ++ line :: behind ∧
      diagnostic.line = before.length + 1 ∧ ¬ Codeless line ∧ openBehind none before = none := by
  obtain ⟨site, hmem, hcode, rule, advice, -, rfl⟩ := exists_advice_of_check h
  obtain ⟨before, behind, hsite⟩ := Site.exists_siteOf_of_mem hmem
  refine ⟨before, site.raw, behind, hsite.lines_eq, hsite.number_eq, ?_, ?_⟩
  · intro hcodeless
    rw [hcodeless.isCode_eq] at hcode
    cases hcode
  · by_contra hopen
    have hstring : site.scan.continuesString = true := by
      rw [hsite.continuesString_eq]
      exact Option.isSome_iff_ne_none.2 hopen
    simp [Site.isCode, hstring] at hcode

theorem shownAround_of_check {source : Source} {diagnostic : Diagnostic}
    (h : check source = some diagnostic) :
    ShownAround source diagnostic.line diagnostic.snippet := by
  obtain ⟨site, hmem, -, rule, advice, -, rfl⟩ := exists_advice_of_check h
  obtain ⟨before, behind, hsite⟩ := Site.exists_siteOf_of_mem hmem
  rw [hsite.source_eq]
  exact Diagnostic.shownAround_snippetOf hsite.line?_eq

end Rule

/-! ## The diagnostics of a source -/

/-- **Where diagnostics point.** Every diagnostic shows its line of the source between the lines
around it. It has a column when it is that of a bracket fault, and the bracket stands there; one
from the rules is about a line of code that begins outside strings. -/
theorem checkSyntax_well_placed {source : Source} {diagnostic : Diagnostic}
    (h : checkSyntax source = some diagnostic) :
    ShownAround source diagnostic.line diagnostic.snippet ∧
    (diagnostic.column.isSome = true ↔ ∃ fault, Rule.check source = none ∧
      Bracket.check source = some fault ∧ diagnostic = fault.toDiagnostic source) ∧
    (∀ column, diagnostic.column = some column →
      ∃ text c, source.line? diagnostic.line = some text ∧ 1 ≤ column ∧ column ≤ text.length ∧
        text[column - 1]? = some c ∧ isBracket c = true) ∧
    (Rule.check source = some diagnostic →
      ∃ before line behind, source.lines = before ++ line :: behind ∧
        diagnostic.line = before.length + 1 ∧ ¬ Codeless line ∧ openBehind none before = none) := by
  rcases Option.or_eq_some_iff.1 h with hrule | ⟨hnone, hfault⟩
  · have hcolumn := Rule.column_eq_none_of_check hrule
    refine ⟨Rule.shownAround_of_check hrule, ?_, ?_, Rule.exists_line_of_check⟩
    · constructor
      · intro hsome
        rw [hcolumn] at hsome
        cases hsome
      · rintro ⟨fault, hnone, -⟩
        rw [hrule] at hnone
        cases hnone
    · intro column hsome
      rw [hcolumn] at hsome
      cases hsome
  · obtain ⟨fault, hcheck, rfl⟩ := Option.map_eq_some_iff.1 hfault
    obtain ⟨text, c, hline, hpos, hchar, hbracket⟩ := exists_bracket_of_check hcheck
    refine ⟨Diagnostic.shownAround_snippetOf hline, ?_, ?_, ?_⟩
    · exact ⟨fun _ => ⟨fault, hnone, hcheck, rfl⟩, fun _ => rfl⟩
    · intro column hcolumn
      obtain rfl : fault.position.column = column := Option.some.inj hcolumn
      obtain ⟨hlt, -⟩ := List.getElem?_eq_some_iff.1 hchar
      exact ⟨text, c, hline, hpos, by omega, hchar, hbracket⟩
    · intro hrule
      rw [hnone] at hrule
      cases hrule

/-- A closer too many on the last of three lines, behind a bracket in a string. -/
theorem checkSyntax_well_placed_on_last_line :
    let source := Source.ofText "x = 1\ny = '('\nz)".toList
    ∃ diagnostic, checkSyntax source = some diagnostic ∧ diagnostic.line = 3 ∧
      diagnostic.column = some 2 ∧ diagnostic.snippet.map (·.number) = [2, 3] ∧
      diagnostic.snippet.countP (·.isErrorLine) = 1 := by
  intro source
  have hcheck : (checkSyntax source).map (fun found => (found.line, found.column)) =
      some (3, some 2) := by decide +kernel
  obtain ⟨diagnostic, hdiagnostic, hfound⟩ := Option.map_eq_some_iff.1 hcheck
  obtain ⟨hline, hcolumn⟩ := Prod.mk.inj hfound
  obtain ⟨hshown, -⟩ := checkSyntax_well_placed hdiagnostic
  refine ⟨diagnostic, hdiagnostic, hline, hcolumn, ?_, hshown.countP_eq⟩
  rw [hshown.numbers_eq, hline]
  decide

end DryRun
