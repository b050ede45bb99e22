import DryRun.Evaluation
import DryRun.Proofs.Source.Columns

/-!
# Lines without code

Blank lines and comments. Read from outside strings, such a line shows its margin and nothing else,
and leaves the scanner outside strings for the line behind it.
-/

namespace DryRun

/-- A blank line, or a comment at any indentation. -/
inductive Codeless : Text → Prop
  | blank {margin : Text} (h : Text.isBlankText margin = true) : Codeless margin
  | comment {margin : Text} (h : Text.isBlankText margin = true) (note : Text) :
    Codeless (margin ++ '#' :: note)

theorem scanFrom_blanks_append {margin : Text} (h : Text.isBlankText margin = true) (rest : Text) :
    scanFrom (.free .code) (margin ++ rest) =
      (margin ++ (scanFrom (.free .code) rest).1, (scanFrom (.free .code) rest).2) := by
  rw [Text.isBlankText_iff] at h
  induction margin with
  | nil => rfl
  | cons c margin ih =>
    rw [List.forall_mem_cons] at h
    rw [List.cons_append, scanFrom_cons_some (Stand.read_blank h.1), ih h.2]
    rfl

section Blanks

variable {margin : Text} (hmargin : Text.isBlankText margin = true) (text : Text)

include hmargin

theorem code_blanks_append :
    (scanLine none (margin ++ text)).code = margin ++ (scanLine none text).code := by
  show (scanFrom (.free .code) (margin ++ text)).1 = _
  rw [scanFrom_blanks_append hmargin]
  rfl

/-- A margin belongs to no statement. -/
theorem statementOf_blanks_append : statementOf (margin ++ text) = statementOf text := by
  unfold statementOf stripComment
  rw [code_blanks_append hmargin, List.length_append, List.take_length_add_append,
    Text.trim_blanks_append hmargin]

end Blanks

namespace Codeless

variable {line : Text}

/-- What such a line shows is blank. -/
theorem exists_scanLine_eq (h : Codeless line) :
    ∃ margin, Text.isBlankText margin = true ∧ scanLine none line = ⟨margin, none, false⟩ := by
  cases h with
  | @blank margin h =>
    refine ⟨line, h, ?_⟩
    have hscan := scanFrom_blanks_append h []
    rw [List.append_nil, scanFrom_nil, List.append_nil] at hscan
    unfold scanLine Mode.ofOpen
    rw [hscan]
    rfl
  | @comment margin h note =>
    refine ⟨margin, h, ?_⟩
    have hscan := scanFrom_blanks_append h ('#' :: note)
    rw [scanFrom_cons_none rfl, List.append_nil] at hscan
    unfold scanLine Mode.ofOpen
    rw [hscan]
    rfl

theorem isBlankText_stripComment (h : Codeless line) :
    Text.isBlankText (stripComment line) = true := by
  unfold stripComment
  cases h with
  | blank h => exact Text.isBlankText_of_subset (List.take_subset _ _) h
  | @comment margin h note =>
    have hscan := scanFrom_blanks_append h ('#' :: note)
    rw [scanFrom_cons_none rfl, List.append_nil] at hscan
    unfold scanLine Mode.ofOpen
    rw [hscan, List.take_left]
    exact h

@[simp] theorem statementOf_eq (h : Codeless line) : statementOf line = [] :=
  Text.trim_eq_nil_iff.2 h.isBlankText_stripComment

/-- Without its leading blanks the line is empty or begins with the sign of a comment. -/
theorem trimStart_eq (h : Codeless line) :
    Text.trimStart line = [] ∨ ∃ note, Text.trimStart line = '#' :: note := by
  cases h with
  | blank h => exact Or.inl (Text.trimStart_eq_nil_iff.2 h)
  | @comment margin h note =>
    refine Or.inr ⟨note, ?_⟩
    unfold Text.trimStart
    rw [List.dropWhile_append_of_pos (Text.isBlankText_iff.1 h), List.dropWhile_cons_of_neg]
    decide

/-- Without its margins the line is empty or begins with the sign of a comment. -/
theorem trim_eq (h : Codeless line) :
    Text.trim line = [] ∨ ∃ note, Text.trim line = '#' :: note := by
  rcases h.trimStart_eq with hnil | ⟨note, hnote⟩
  · exact Or.inl (by rw [Text.trim, hnil]; rfl)
  · refine Or.inr (List.head?_eq_some_iff.1 ?_)
    rw [head?_trim, hnote]
    rfl

end Codeless

/-- A line has no code just if trimming leaves nothing, or the sign of a comment in front. -/
theorem codeless_iff {line : Text} :
    Codeless line ↔ (Text.trim line).head?.all (· == '#') = true := by
  constructor
  · intro h
    rcases h.trim_eq with hnil | ⟨note, hnote⟩
    · rw [hnil]
      rfl
    · rw [hnote]
      rfl
  · intro h
    have hsplit : line.takeWhile Unicode.isBlank ++ Text.trimStart line = line :=
      List.takeWhile_append_dropWhile
    rw [head?_trim] at h
    cases hstart : Text.trimStart line with
    | nil => exact .blank (Text.trimStart_eq_nil_iff.1 hstart)
    | cons c note =>
      rw [hstart] at h hsplit
      obtain rfl : c = '#' := beq_iff_eq.1 h
      rw [← hsplit]
      exact .comment List.all_takeWhile note

/-- A line with code has a statement. -/
theorem statementOf_eq_nil_iff {line : Text} : statementOf line = [] ↔ Codeless line := by
  refine ⟨fun h => ?_, fun h => h.statementOf_eq⟩
  have hmargin : Text.isBlankText (line.takeWhile Unicode.isBlank) = true := List.all_takeWhile
  have hsplit : line.takeWhile Unicode.isBlank ++ Text.trimStart line = line :=
    List.takeWhile_append_dropWhile
  rw [codeless_iff, head?_trim]
  rw [← hsplit, statementOf_blanks_append hmargin] at h
  cases hstart : Text.trimStart line with
  | nil => rfl
  | cons c rest =>
    by_contra hsign
    obtain ⟨shown, next, hread⟩ :=
      Stand.exists_read_of_ne (fun heq => hsign (beq_iff_eq.2 heq)) (.free .code) rest
    -- the first character behind the margin is shown, and it is not blank
    have hcode : (scanLine none (c :: rest)).code = shown :: (scanFrom next rest).1 := by
      show (scanFrom (.free .code) (c :: rest)).1 = _
      rw [scanFrom_cons_some hread]
    rw [hstart, statementOf, stripComment, hcode, List.length_cons, List.take_succ_cons,
      Text.trim_eq_nil_iff, Text.isBlankText_iff] at h
    have hblank := List.head?_dropWhile_not Unicode.isBlank line
    unfold Text.trimStart at hstart
    rw [hstart] at hblank
    have hblank : Unicode.isBlank c = false := hblank
    rw [h c List.mem_cons_self] at hblank
    cases hblank

instance : DecidablePred Codeless := fun _ => decidable_of_iff _ codeless_iff.symm

/-! ## Insertion -/

/-- The number that a line has when another is inserted behind so many lines: one more from there
on. -/
def movedLine (count line : Nat) : Nat := if count < line then line + 1 else line

theorem movedLine_of_lt {count line : Nat} (h : count < line) : movedLine count line = line + 1 :=
  if_pos h

theorem movedLine_of_le {count line : Nat} (h : line ≤ count) : movedLine count line = line :=
  if_neg (Nat.not_lt.2 h)

/-- Outside strings, a line without code adds a blank scan and leaves the others as they are. -/
theorem exists_scanLines_insert {line : Text} (h : Codeless line) {before : List Text}
    (hopen : openBehind none before = none) (behind : List Text) :
    scanLines none (before ++ behind) = scanLines none before ++ scanLines none behind ∧
      ∃ scan, Text.isBlankText scan.code = true ∧
        scanLines none (before ++ line :: behind) =
          scanLines none before ++ scan :: scanLines none behind := by
  obtain ⟨margin, hmargin, hscan⟩ := h.exists_scanLine_eq
  refine ⟨by rw [scanLines_append, hopen], ⟨margin, none, false⟩, hmargin, ?_⟩
  rw [scanLines_append, hopen, scanLines, hscan]

end DryRun
