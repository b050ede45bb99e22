import DryRun.Proofs.Bracket.Marks
import DryRun.Proofs.Source.Codeless

/-!
# Lines without code among brackets

A line without code has no brackets. So inserting one moves the marks behind it, and with them the
fault that the check of brackets finds (`check_insert`).
-/

namespace DryRun

namespace Bracket

/-! ## Moved places -/

/-- A place once a line is inserted behind so many others. -/
def Position.moved (count : Nat) (position : Position) : Position :=
  { position with line := movedLine count position.line }

/-- A mark at its moved place. -/
def Mark.moved (count : Nat) (mark : Mark) : Mark :=
  { mark with position := mark.position.moved count }

/-- An opener at its moved place. -/
def Opener.moved (count : Nat) (opener : Opener) : Opener :=
  { opener with position := opener.position.moved count }

/-- The same fault at its moved place, of which the message names the moved line of the opener. -/
def Fault.moved (count : Nat) : Fault → Fault
  | unexpectedCloser bracket position => unexpectedCloser bracket (position.moved count)
  | mismatchedCloser bracket position opener =>
    mismatchedCloser bracket (position.moved count) (opener.moved count)
  | unclosedOpener opener => unclosedOpener (opener.moved count)

theorem checkFrom_moved (count : Nat) (stack : List Opener) (marks : List Mark) :
    checkFrom (stack.map (Opener.moved count)) (marks.map (Mark.moved count)) =
      (checkFrom stack marks).map (Fault.moved count) := by
  induction marks generalizing stack with
  | nil => cases stack <;> rfl
  | cons mark rest ih =>
    obtain ⟨side, bracket, position⟩ := mark
    cases side with
    | opens =>
      rw [List.map_cons, Mark.moved, checkFrom, checkFrom]
      exact ih (⟨bracket, position⟩ :: stack)
    | closes =>
      cases stack with
      | nil => rfl
      | cons opener stack =>
        show checkFrom (opener.moved count :: stack.map (Opener.moved count))
          (⟨.closes, bracket, position.moved count⟩ :: rest.map (Mark.moved count)) = _
        rw [checkFrom, checkFrom]
        by_cases heq : opener.bracket = bracket
        · have heq' : (opener.moved count).bracket = bracket := heq
          rw [if_pos heq, if_pos heq']
          exact ih stack
        · have hne : (opener.moved count).bracket ≠ bracket := heq
          rw [if_neg heq, if_neg hne]
          rfl

/-! ## Moved marks -/

theorem marksOfLine_of_isBlankText {scan : LineScan} (h : Text.isBlankText scan.code = true)
    (line : Nat) : marksOfLine scan line = [] := by
  rw [List.eq_nil_iff_forall_not_mem]
  intro mark hmark
  obtain ⟨-, column, -, hget⟩ := mem_marksOfLine.1 hmark
  have hblank := Text.isBlankText_iff.1 h _ (List.mem_of_getElem? hget)
  rw [Mark.char, isBlank_char] at hblank
  cases hblank

theorem markAt_succ {count line : Nat} (h : count < line) (entry : Char × Nat) :
    markAt (line + 1) entry = (markAt line entry).map (Mark.moved count) := by
  unfold markAt
  rw [Option.map_map]
  congr 1
  funext found
  show _ = Mark.mk found.1 found.2 ⟨movedLine count line, entry.2⟩
  rw [movedLine_of_lt h]

theorem marksFrom_succ {count number : Nat} (h : count < number) (scans : List LineScan) :
    marksFrom (number + 1) scans = (marksFrom number scans).map (Mark.moved count) := by
  induction scans generalizing number with
  | nil => rfl
  | cons scan rest ih =>
    rw [marksFrom_cons, marksFrom_cons, List.map_append, ih (Nat.lt_succ_of_lt h)]
    congr 1
    rw [marksOfLine_eq, marksOfLine_eq, List.map_filterMap]
    congr 1
    funext entry
    exact markAt_succ h entry

theorem map_moved_marksFrom {count : Nat} {scans : List LineScan} (h : scans.length ≤ count) :
    (marksFrom 1 scans).map (Mark.moved count) = marksFrom 1 scans := by
  refine (List.map_congr_left fun mark hmark => ?_).trans (List.map_id _)
  obtain ⟨hle, scan, hget, -⟩ := mem_marksFrom.1 hmark
  obtain ⟨hlt, -⟩ := List.getElem?_eq_some_iff.1 hget
  unfold Mark.moved Position.moved
  rw [movedLine_of_le (by omega)]
  rfl

section Insertion

variable {line : Text} (h : Codeless line) {before : List Text}
  (hopen : openBehind none before = none) (behind : List Text)

include h hopen

theorem marks_insert :
    marks ⟨before ++ line :: behind⟩ =
      (marks ⟨before ++ behind⟩).map (Mark.moved before.length) := by
  obtain ⟨hscans, scan, hblank, hscans'⟩ := exists_scanLines_insert h hopen behind
  have hlt : before.length < 1 + before.length := by omega
  rw [marks_eq_marksFrom, marks_eq_marksFrom, Source.scans, Source.scans, hscans, hscans',
    marksFrom_append, marksFrom_append, marksFrom_cons, marksOfLine_of_isBlankText hblank,
    List.nil_append, List.map_append, map_moved_marksFrom (length_scanLines none before).le,
    length_scanLines, marksFrom_succ hlt]

/-- A line without code moves the fault. -/
theorem check_insert :
    check ⟨before ++ line :: behind⟩ =
      (check ⟨before ++ behind⟩).map (Fault.moved before.length) := by
  rw [check, check, marks_insert h hopen]
  exact checkFrom_moved before.length [] _

end Insertion

end Bracket

end DryRun
