import DryRun.Proofs.Bracket.Insertion
import DryRun.Proofs.Execution.Stages
import DryRun.Proofs.Loop.Bodies
import DryRun.Proofs.Rule.Insertion

/-!
# Lines without code and verdicts

A verdict is given for a cause: what the rules report, a fault among brackets, an allocation, or a
loop. Every stage passes over lines without code. So inserting one outside strings leaves the cause
as it is but for the numbers of the lines behind it (`verdict_insert_codeless`).

1. Allocations and loops: what is found is moved.
2. Causes, and the verdicts given for them.
-/

namespace DryRun

/-! ## Allocations -/

namespace Allocation

/-- The finding on its moved line. -/
def Finding.moved (count : Nat) (finding : Finding) : Finding :=
  { finding with line := movedLine count finding.line }

theorem excessive?_of_codeless {line : Text} (h : Codeless line) : excessive? line = none := by
  rw [excessive?, ← statementOf, h.statementOf_eq]
  rfl

/-- The finding in a line of the given number. -/
def findingOf? (entry : Text × Nat) : Option Finding :=
  (excessive? entry.1).map fun allocation => ⟨allocation, entry.2⟩

/-- The first finding in consecutive lines, numbered from the given number on. -/
def checkFrom (number : Nat) (lines : List Text) : Option Finding :=
  (lines.zipIdx number).findSome? findingOf?

theorem check_eq_checkFrom (source : Source) : check source = checkFrom 1 source.lines := rfl

theorem map_moved_findingOf? (count : Nat) (entry : Text × Nat) :
    (findingOf? entry).map (Finding.moved count) =
      findingOf? (entry.1, movedLine count entry.2) := by
  unfold findingOf?
  rw [Option.map_map]
  rfl

theorem checkFrom_succ {count number : Nat} (h : count < number) (lines : List Text) :
    checkFrom (number + 1) lines = (checkFrom number lines).map (Finding.moved count) := by
  unfold checkFrom
  rw [List.zipIdx_succ, List.findSome?_map, List.map_findSome?]
  apply Rule.findSome?_congr
  rintro ⟨line, place⟩ hmem
  have hle := (List.mk_mem_zipIdx_iff_le_and_getElem?_sub.1 hmem).1
  rw [Function.comp_apply, Function.comp_apply, map_moved_findingOf?, movedLine_of_lt (by omega)]

theorem map_moved_checkFrom {count : Nat} {lines : List Text} (h : lines.length ≤ count) :
    (checkFrom 1 lines).map (Finding.moved count) = checkFrom 1 lines := by
  unfold checkFrom
  rw [List.map_findSome?]
  apply Rule.findSome?_congr
  rintro ⟨line, place⟩ hmem
  obtain ⟨hle, hget⟩ := List.mk_mem_zipIdx_iff_le_and_getElem?_sub.1 hmem
  obtain ⟨hlt, -⟩ := List.getElem?_eq_some_iff.1 hget
  rw [Function.comp_apply, map_moved_findingOf?, movedLine_of_le (by omega)]

theorem checkFrom_append (number : Nat) (lines more : List Text) :
    checkFrom number (lines ++ more) =
      (checkFrom number lines).or (checkFrom (number + lines.length) more) := by
  unfold checkFrom
  rw [List.zipIdx_append, List.findSome?_append]

theorem checkFrom_cons_of_codeless {line : Text} (h : Codeless line) (number : Nat)
    (lines : List Text) : checkFrom number (line :: lines) = checkFrom (number + 1) lines := by
  unfold checkFrom
  rw [List.zipIdx_cons, List.findSome?_cons, findingOf?, excessive?_of_codeless h]
  rfl

/-- A line without code moves the allocation. -/
theorem check_insert {line : Text} (h : Codeless line) (before behind : List Text) :
    check ⟨before ++ line :: behind⟩ =
      (check ⟨before ++ behind⟩).map (Finding.moved before.length) := by
  have hlt : before.length < 1 + before.length := by omega
  rw [check_eq_checkFrom, check_eq_checkFrom, checkFrom_append, checkFrom_append,
    checkFrom_cons_of_codeless h, Option.map_or, map_moved_checkFrom (Nat.le_refl _),
    checkFrom_succ hlt]

end Allocation

/-! ## Loops -/

namespace Loop

/-- The finding on its moved line. -/
def Finding.moved (count : Nat) (finding : Finding) : Finding :=
  { finding with line := movedLine count finding.line }

theorem bodyBreaks_insert {line : Text} (h : Codeless line) (indent : Nat)
    (between behind : List Text) :
    bodyBreaks indent (between ++ line :: behind) = bodyBreaks indent (between ++ behind) := by
  induction between with
  | nil => exact bodyBreaks_cons_of_codeless h indent behind
  | cons first between ih => rw [List.cons_append, List.cons_append, bodyBreaks, bodyBreaks, ih]

theorem endless?_of_codeless {line : Text} (h : Codeless line) (later : List Text) :
    endless? line later = none := by
  apply endless?_of_inlineBody?_eq_none
  rw [h.statementOf_eq]
  rfl

theorem endless?_insert {line : Text} (h : Codeless line) (header : Text)
    (between behind : List Text) :
    endless? header (between ++ line :: behind) = endless? header (between ++ behind) := by
  unfold endless?
  simp only [bodyBreaks_insert h]

theorem checkFrom_succ {count number : Nat} (h : count < number) (lines : List Text) :
    checkFrom (number + 1) lines = (checkFrom number lines).map (Finding.moved count) := by
  induction lines generalizing number with
  | nil => rfl
  | cons line rest ih =>
    rw [checkFrom, checkFrom]
    cases endless? line rest with
    | none => exact ih (Nat.lt_succ_of_lt h)
    | some header =>
      show some (Finding.mk header (number + 1)) = some (Finding.mk header (movedLine count number))
      rw [movedLine_of_lt h]

theorem checkFrom_insert {line : Text} (h : Codeless line) (before behind : List Text)
    (number : Nat) :
    checkFrom (number + 1) (before ++ line :: behind) =
      (checkFrom (number + 1) (before ++ behind)).map (Finding.moved (number + before.length)) := by
  induction before generalizing number with
  | nil =>
    rw [List.nil_append, List.nil_append, checkFrom, endless?_of_codeless h]
    exact checkFrom_succ (Nat.lt_succ_self number) behind
  | cons header between ih =>
    rw [List.cons_append, List.cons_append, checkFrom, checkFrom, endless?_insert h]
    cases endless? header (between ++ behind) with
    | none =>
      rw [List.length_cons, Nat.add_comm between.length, ← Nat.add_assoc]
      exact ih (number + 1)
    | some found =>
      show _ = some (Finding.mk found (movedLine _ (number + 1)))
      rw [movedLine_of_le]
      rw [List.length_cons]
      omega

/-- A line without code moves the loop. -/
theorem check_insert {line : Text} (h : Codeless line) (before behind : List Text) :
    check ⟨before ++ line :: behind⟩ =
      (check ⟨before ++ behind⟩).map (Finding.moved before.length) := by
  have hcheck := checkFrom_insert h before behind 0
  rw [Nat.zero_add, Nat.zero_add] at hcheck
  exact hcheck

end Loop

/-! ## Causes -/

/-- What a verdict is given for. -/
inductive Cause where
  | rule (report : Rule.Report)
  | fault (fault : Bracket.Fault)
  | allocation (finding : Allocation.Finding)
  | loop (finding : Loop.Finding)
  | nothing
  deriving DecidableEq, Repr

namespace Cause

/-- The cause in a source: the finding of the first stage that has one. -/
def ofSource (source : Source) : Cause :=
  match Rule.report? source, Bracket.check source, Allocation.check source, Loop.check source with
  | some report, _, _, _ => rule report
  | none, some found, _, _ => fault found
  | none, none, some finding, _ => allocation finding
  | none, none, none, some finding => loop finding
  | none, none, none, none => nothing

/-- The verdict that a cause gets, with the snippets of a source. -/
def verdict (source : Source) : Cause → Verdict
  | rule report => .syntaxProblem (report.toDiagnostic source)
  | fault found => .syntaxProblem (found.toDiagnostic source)
  | allocation finding => .memoryProblem finding
  | loop finding => .endlessLoop finding
  | nothing => .clear

/-- The same cause on its moved line. -/
def moved (count : Nat) : Cause → Cause
  | rule report => rule (report.moved count)
  | fault found => fault (found.moved count)
  | allocation finding => allocation (finding.moved count)
  | loop finding => loop (finding.moved count)
  | nothing => nothing

theorem verdict_ofSource (source : Source) :
    Verdict.ofSource source = (ofSource source).verdict source := by
  rw [Verdict.ofSource_eq, checkSyntax, Rule.check_eq_map_report?, ofSource]
  cases Rule.report? source with
  | some report => rfl
  | none =>
    cases Bracket.check source with
    | some found => rfl
    | none =>
      cases Allocation.check source with
      | some finding => rfl
      | none => cases Loop.check source <;> rfl

theorem ofSource_insert {line : Text} (h : Codeless line) {before : List Text}
    (hopen : openBehind none before = none) (behind : List Text) :
    ofSource ⟨before ++ line :: behind⟩ =
      (ofSource ⟨before ++ behind⟩).moved before.length := by
  unfold ofSource
  rw [Rule.report?_insert h behind hopen, Bracket.check_insert h hopen, Allocation.check_insert h,
    Loop.check_insert h]
  cases Rule.report? ⟨before ++ behind⟩ with
  | some report => rfl
  | none =>
    cases Bracket.check ⟨before ++ behind⟩ with
    | some found => rfl
    | none =>
      cases Allocation.check ⟨before ++ behind⟩ with
      | some finding => rfl
      | none => cases Loop.check ⟨before ++ behind⟩ <;> rfl

end Cause

/-- **Lines without code.** A verdict is given for its cause, and a blank line or a comment that is
inserted where no string in triple quotes is open leaves the cause as it is, but that it moves down
by a line from there on. -/
theorem verdict_insert_codeless {line : Text} (h : Codeless line) {before : List Text}
    (hopen : openBehind none before = none) (behind : List Text) :
    let cause := Cause.ofSource ⟨before ++ behind⟩
    Verdict.ofSource ⟨before ++ behind⟩ = cause.verdict ⟨before ++ behind⟩ ∧
      Verdict.ofSource ⟨before ++ line :: behind⟩ =
        (cause.moved before.length).verdict ⟨before ++ line :: behind⟩ := by
  intro cause
  constructor
  · exact Cause.verdict_ofSource _
  · rw [Cause.verdict_ofSource, Cause.ofSource_insert h hopen]

/-- A comment between an opener and the closer that does not fit it moves the closer alone. -/
theorem verdict_insert_comment_in_brackets :
    let before := ["x = (1,".toList]
    let behind := ["  2]".toList, ")".toList]
    let source : Source := ⟨before ++ "# ]".toList :: behind⟩
    let fault := Bracket.Fault.mismatchedCloser .square ⟨3, 4⟩ ⟨.round, ⟨1, 5⟩⟩
    Codeless ([] ++ '#' :: " ]".toList) ∧ openBehind none before = none ∧
      Verdict.ofSource source = .syntaxProblem (fault.toDiagnostic source) := by
  intro before behind source fault
  have hline : Codeless ([] ++ '#' :: " ]".toList) := .comment rfl _
  have hopen : openBehind none before = none := by decide +kernel
  have hcause : (Cause.ofSource ⟨before ++ behind⟩).moved before.length = .fault fault := by
    decide +kernel
  refine ⟨hline, hopen, ?_⟩
  have hverdict := (verdict_insert_codeless hline hopen behind).2
  rw [hcause] at hverdict
  exact hverdict

end DryRun
