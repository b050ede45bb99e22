import DryRun.Proofs.Bracket.Nesting
import DryRun.Proofs.Source.Columns

/-!
# Marks

The marks of a source are the brackets of its code, each with the place where it stands:
`word_marks` reads them as characters, `mem_marks_iff` finds them by their places, and
`marks_in_reading_order` says how they follow each other. They come line by line (`marksFrom`).
-/

namespace DryRun

namespace Bracket

/-- The character at a place of lines, which are counted from one like their columns. -/
def charAt? (lines : List Text) : Position → Option Char
  | ⟨line + 1, column + 1⟩ => lines[line]?.bind (·[column]?)
  | _ => none

/-- The code of a source, line by line. -/
def codeLines (source : Source) : List Text := source.scans.map (·.code)

/-- A place comes before another in the order of reading. -/
def Position.Before (place other : Position) : Prop :=
  place.line < other.line ∨ place.line = other.line ∧ place.column < other.column

/-- The marks of consecutive lines, counted from a number. -/
def marksFrom (number : Nat) (scans : List LineScan) : List Mark :=
  (scans.zipIdx number).flatMap fun (scan, line) => marksOfLine scan line

theorem marks_eq_marksFrom (source : Source) : marks source = marksFrom 1 source.scans := rfl

@[simp] theorem marksFrom_nil (number : Nat) : marksFrom number [] = [] := rfl

@[simp] theorem marksFrom_cons (number : Nat) (scan : LineScan) (scans : List LineScan) :
    marksFrom number (scan :: scans) = marksOfLine scan number ++ marksFrom (number + 1) scans :=
  rfl

theorem marksFrom_append (number : Nat) (earlier later : List LineScan) :
    marksFrom number (earlier ++ later) =
      marksFrom number earlier ++ marksFrom (number + earlier.length) later := by
  unfold marksFrom
  rw [List.zipIdx_append, List.flatMap_append]

/-! ## Their characters -/

/-- The mark at a column of a line, if a bracket stands there. -/
def markAt (line : Nat) (entry : Char × Nat) : Option Mark :=
  (ofChar? entry.1).map fun (side, bracket) => ⟨side, bracket, ⟨line, entry.2⟩⟩

theorem marksOfLine_eq (scan : LineScan) (line : Nat) :
    marksOfLine scan line = (scan.code.zipIdx 1).filterMap (markAt line) := rfl

theorem markAt_eq_some {line : Nat} {entry : Char × Nat} {mark : Mark} :
    markAt line entry = some mark ↔ entry.1 = mark.char ∧ mark.position = ⟨line, entry.2⟩ := by
  unfold markAt
  constructor
  · intro h
    obtain ⟨⟨side, bracket⟩, hchar, rfl⟩ := Option.map_eq_some_iff.1 h
    exact ⟨char_of_ofChar? hchar, rfl⟩
  · rintro ⟨hchar, hposition⟩
    obtain ⟨side, bracket, position⟩ := mark
    obtain rfl : position = ⟨line, entry.2⟩ := hposition
    rw [hchar, Mark.char, ofChar?_char]
    rfl

theorem word_filterMap_markAt (line : Nat) (code : Text) (column : Nat) :
    word ((code.zipIdx column).filterMap (markAt line)) = code.filter isBracket := by
  induction code generalizing column with
  | nil => rfl
  | cons c rest ih =>
    rw [List.zipIdx_cons, List.filter_cons, List.filterMap_cons, ← ih (column + 1)]
    cases hc : ofChar? c with
    | none => simp [markAt, isBracket, hc]
    | some found => simp [markAt, isBracket, hc, Mark.char, ← char_of_ofChar? hc]

theorem word_marksFrom (number : Nat) (scans : List LineScan) :
    word (marksFrom number scans) = (scans.flatMap (·.code)).filter isBracket := by
  induction scans generalizing number with
  | nil => rfl
  | cons scan rest ih =>
    rw [marksFrom_cons, word_append, ih, List.flatMap_cons, List.filter_append, marksOfLine_eq,
      word_filterMap_markAt]

/-- The marks of a source are the brackets of its code. -/
theorem word_marks (source : Source) :
    word (marks source) = (codeLines source).flatten.filter isBracket := by
  rw [marks_eq_marksFrom, word_marksFrom, codeLines, List.flatMap_def]

/-! ## Their places -/

theorem mem_marksOfLine {scan : LineScan} {line : Nat} {mark : Mark} :
    mark ∈ marksOfLine scan line ↔
      mark.position.line = line ∧ ∃ column, mark.position.column = column + 1 ∧
        scan.code[column]? = some mark.char := by
  rw [marksOfLine_eq, List.mem_filterMap]
  constructor
  · rintro ⟨⟨c, column⟩, hmem, hmark⟩
    obtain ⟨hchar, hposition⟩ := markAt_eq_some.1 hmark
    obtain ⟨hle, hget⟩ := List.mk_mem_zipIdx_iff_le_and_getElem?_sub.1 hmem
    refine ⟨congrArg Position.line hposition, column - 1, ?_, ?_⟩
    · rw [hposition]
      show column = column - 1 + 1
      omega
    · rw [hget]
      exact congrArg some hchar
  · rintro ⟨hline, column, hcolumn, hget⟩
    refine ⟨(mark.char, column + 1), ?_, markAt_eq_some.2 ⟨rfl, ?_⟩⟩
    · exact List.mk_mem_zipIdx_iff_le_and_getElem?_sub.2 ⟨by omega, by simpa using hget⟩
    · rw [← hline, ← hcolumn]

theorem mem_marksFrom {number : Nat} {scans : List LineScan} {mark : Mark} :
    mark ∈ marksFrom number scans ↔
      number ≤ mark.position.line ∧ ∃ scan, scans[mark.position.line - number]? = some scan ∧
        mark ∈ marksOfLine scan mark.position.line := by
  unfold marksFrom
  rw [List.mem_flatMap]
  constructor
  · rintro ⟨⟨scan, line⟩, hmem, hmark⟩
    obtain ⟨hle, hget⟩ := List.mk_mem_zipIdx_iff_le_and_getElem?_sub.1 hmem
    obtain rfl : mark.position.line = line := (mem_marksOfLine.1 hmark).1
    exact ⟨hle, scan, hget, hmark⟩
  · rintro ⟨hle, scan, hget, hmark⟩
    exact ⟨(scan, mark.position.line), List.mk_mem_zipIdx_iff_le_and_getElem?_sub.2 ⟨hle, hget⟩,
      hmark⟩

/-- The marks of a source are all the brackets of its code, at their places. -/
theorem mem_marks_iff {source : Source} {mark : Mark} :
    mark ∈ marks source ↔ charAt? (codeLines source) mark.position = some mark.char := by
  rw [marks_eq_marksFrom, mem_marksFrom]
  obtain ⟨side, bracket, line, column⟩ := mark
  obtain _ | line := line
  · simp [charAt?]
  obtain _ | column := column
  · simp [charAt?, mem_marksOfLine]
  simp [charAt?, codeLines, mem_marksOfLine, Option.bind_map, Option.bind_eq_some_iff]

/-- What is no space in the code of a source stands in the source at the same place. -/
theorem charAt?_lines_of_code {source : Source} {place : Position} {c : Char} (hc : c ≠ ' ')
    (h : charAt? (codeLines source) place = some c) : charAt? source.lines place = some c := by
  obtain ⟨line, column⟩ := place
  obtain _ | line := line
  · exact h
  obtain _ | column := column
  · exact h
  simp only [charAt?, codeLines, List.getElem?_map, Option.bind_map, Option.bind_eq_some_iff] at h ⊢
  obtain ⟨scan, hscan, hcode⟩ := h
  obtain ⟨raw, carried, hraw, rfl⟩ := exists_of_getElem?_scanLines hscan
  exact ⟨raw, hraw, (getElem?_code_scanLine hcode).resolve_right hc⟩

theorem isBlank_char (side : Side) (bracket : Bracket) :
    Unicode.isBlank (side.char bracket) = false := by
  cases side <;> cases bracket <;> decide

theorem charAt?_lines_of_mem_marks {source : Source} {mark : Mark} (h : mark ∈ marks source) :
    charAt? source.lines mark.position = some mark.char := by
  have hspace : mark.char ≠ ' ' := by
    intro heq
    have hblank := isBlank_char mark.side mark.bracket
    rw [← Mark.char, heq] at hblank
    revert hblank
    decide
  exact charAt?_lines_of_code hspace (mem_marks_iff.1 h)

/-! ## Their order -/

theorem marksOfLine_in_reading_order (scan : LineScan) (line : Nat) :
    (marksOfLine scan line).Pairwise fun a b => a.position.Before b.position := by
  rw [marksOfLine_eq, List.pairwise_filterMap]
  have hcolumns : (scan.code.zipIdx 1).Pairwise fun a b => a.2 < b.2 := by
    rw [← List.pairwise_map (f := Prod.snd), List.zipIdx_map_snd]
    exact List.pairwise_lt_range'
  apply hcolumns.imp
  intro entry entry' hlt a ha b hb
  right
  rw [(markAt_eq_some.1 ha).2, (markAt_eq_some.1 hb).2]
  exact ⟨rfl, hlt⟩

theorem marksFrom_in_reading_order (number : Nat) (scans : List LineScan) :
    (marksFrom number scans).Pairwise fun a b => a.position.Before b.position := by
  induction scans generalizing number with
  | nil => exact .nil
  | cons scan rest ih =>
    rw [marksFrom_cons, List.pairwise_append]
    refine ⟨marksOfLine_in_reading_order scan number, ih (number + 1), ?_⟩
    intro a ha b hb
    left
    rw [(mem_marksOfLine.1 ha).1]
    exact (mem_marksFrom.1 hb).1

theorem marks_in_reading_order (source : Source) :
    (marks source).Pairwise fun a b => a.position.Before b.position :=
  marksFrom_in_reading_order 1 source.scans

end Bracket

end DryRun
