import DryRun.Proofs.Evaluation.Statements
import DryRun.Proofs.Function.Collect
import DryRun.Proofs.Program.Steps

/-!
# Comments in programs

A line without code does nothing where it stands, in a body or outside. It may still end the body of
a definition, if it is a comment that stands no deeper than the header: then what follows is lost to
the function, and the program passes over it all the same (`comment_ends_body`). Unless a statement
is lost so, a program has the outcome that it has without the line (`run_insert_codeless`).
-/

namespace DryRun

open Evaluation

/-! ## Bodies -/

theorem Codeless.hasStatement_eq_false {line : Text} (h : Codeless line) :
    hasStatement line = false :=
  hasStatement_eq_false_iff.2 h.statementOf_eq

namespace Function

theorem header?_of_codeless {line : Text} (h : Codeless line) : header? line = none := by
  unfold header?
  rcases h.trim_eq with hnil | ⟨note, hnote⟩
  · rw [hnil]
    rfl
  · rw [hnote]
    rfl

/-- Whether a line ends the body of a definition before it, though a statement of the body follows;
the lines before it come last. -/
def cutsBody (line : Text) (behind : List Text) : List Text → Bool
  | [] => false
  | header :: between =>
    let inside := inBody (Text.indentation header)
    (header? header).isSome && between.all inside && !inside line &&
        (behind.takeWhile inside).any hasStatement ||
      cutsBody line behind between

variable {line : Text} {behind : List Text}

/-- The statements in a body are those that it has without the line. -/
theorem filter_takeWhile_insert {inside : Text → Bool} {between : List Text}
    (hline : hasStatement line = false)
    (hcut : (between.all inside && !inside line && (behind.takeWhile inside).any hasStatement) =
      false) :
    ((between ++ line :: behind).takeWhile inside).filter hasStatement =
      ((between ++ behind).takeWhile inside).filter hasStatement := by
  rw [List.takeWhile_append, List.takeWhile_append]
  split
  · rename_i hlength
    have hbetween : between.all inside = true := by
      rw [List.all_eq_true, ← (List.takeWhile_prefix inside).eq_of_length hlength]
      exact fun other hother => List.mem_takeWhile_imp hother
    rw [List.filter_append, List.filter_append]
    congr 1
    by_cases hinside : inside line = true
    · rw [List.takeWhile_cons_of_pos hinside,
        List.filter_cons_of_neg (Bool.eq_false_iff.1 hline)]
    · -- the line ends the body, and only lines without statements are lost
      rw [hbetween, Bool.eq_false_iff.2 hinside] at hcut
      rw [List.takeWhile_cons_of_neg hinside, List.filter_nil, eq_comm, List.filter_eq_nil_iff]
      simpa using hcut
  · rfl

theorem ofLines?_insert_alike (hline : hasStatement line = false) {header : Text}
    {between : List Text} (hcut : cutsBody line behind (header :: between) = false) :
    Option.Rel Alike (ofLines? header (between ++ behind))
      (ofLines? header (between ++ line :: behind)) := by
  rw [cutsBody, Bool.or_eq_false_iff] at hcut
  unfold ofLines?
  cases hheader : header? header with
  | none => exact .none
  | some found =>
    refine .some ⟨rfl, rfl, runBody_eq_of_filter_eq (filter_takeWhile_insert hline ?_)⟩
    simpa [hheader] using hcut.1

/-! ## Functions -/

/-- A line that cuts no body leaves the functions alike. -/
theorem collect_insert_alike (hline : Codeless line) {before : List Text}
    (hcut : cutsBody line behind before = false) {earlier earlier' : Functions}
    (hearlier : List.Forall₂ Alike earlier earlier') :
    List.Forall₂ Alike (collect earlier (before ++ behind))
      (collect earlier' (before ++ line :: behind)) := by
  induction before generalizing earlier earlier' with
  | nil =>
    rw [List.nil_append, List.nil_append, collect, ofLines?, header?_of_codeless hline]
    exact collect_alike hearlier behind
  | cons header between ih =>
    have hbetween : cutsBody line behind between = false := by
      rw [cutsBody, Bool.or_eq_false_iff] at hcut
      exact hcut.2
    exact ih hbetween
      (alike_append (ofLines?_insert_alike hline.hasStatement_eq_false hcut) hearlier)

end Function

/-! ## Programs -/

namespace Program

theorem foldlM_stepLine_insert {line : Text} (h : Codeless line)
    (evaluate : Environment → Text → Except EvalError Value) (before behind : List Text)
    (state : State) :
    (before ++ line :: behind).foldlM (stepLine evaluate) state =
      (before ++ behind).foldlM (stepLine evaluate) state := by
  rw [List.foldlM_append, List.foldlM_append]
  congr 1
  funext state
  rw [List.foldlM_cons, stepLine_of_codeless h]
  rfl

end Program

/-- **Comments.** A line without code between the lines of a program, before the first or behind the
last, leaves its outcome as it is, unless the line cuts a body. -/
theorem run_insert_codeless {line : Text} (h : Codeless line) {before behind : List Text}
    (hcut : Function.cutsBody line behind before = false) (limits : Limits) (cancelled : Bool) :
    Program.run limits cancelled ⟨before ++ line :: behind⟩ =
      Program.run limits cancelled ⟨before ++ behind⟩ := by
  have halike : (Function.ofSource ⟨before ++ behind⟩).Alike
      (Function.ofSource ⟨before ++ line :: behind⟩) :=
    Functions.alike_of_forall₂ (Function.collect_insert_alike h hcut .nil)
  unfold Program.run Program.output
  dsimp only
  rw [evaluate_eq_of_alike halike, Program.foldlM_stepLine_insert h]

/-- A comment in a body, deeper than the header and less deep than the lines around it. -/
theorem run_insert_comment_in_body :
    let before := ["def f(x):".toList, "    y = x + 'b'".toList]
    let behind := ["    return y".toList, "print(f('a'))".toList]
    Function.cutsBody "  # )".toList behind before = false ∧
      Program.run ⟨64, 200⟩ false ⟨before ++ "  # )".toList :: behind⟩ = .ok "ab".toList := by
  intro before behind
  have hcut : Function.cutsBody "  # )".toList behind before = false := by decide +kernel
  have hcomment : Codeless ("  ".toList ++ '#' :: " )".toList) := .comment (by decide) _
  have houtput : Program.run ⟨64, 200⟩ false ⟨before ++ behind⟩ = .ok "ab".toList := by
    decide +kernel
  exact ⟨hcut, (run_insert_codeless hcomment hcut ⟨64, 200⟩ false).trans houtput⟩

/-- A comment at the margin takes the `return` behind it from the function. -/
theorem comment_ends_body :
    let before := ["def f():".toList]
    let behind := ["    return 'a'".toList, "print(type(f()))".toList]
    Codeless ([] ++ '#' :: " a".toList) ∧
      Program.run ⟨64, 200⟩ false ⟨before ++ behind⟩ = .ok "<class 'str'>".toList ∧
      Program.run ⟨64, 200⟩ false ⟨before ++ "# a".toList :: behind⟩ =
        .ok "<class 'NoneType'>".toList := by
  intro before behind
  refine ⟨.comment rfl _, ?_, ?_⟩
  · decide +kernel
  · decide +kernel

end DryRun
