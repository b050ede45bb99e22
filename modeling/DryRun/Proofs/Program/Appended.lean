import DryRun.Proofs.Evaluation.Room
import DryRun.Proofs.Evaluation.Statements
import DryRun.Proofs.Function.Collect
import DryRun.Proofs.Source.Columns
import DryRun.Proofs.Text.Pieces

/-!
# Appended lines

What a program prints stays printed when lines follow that define nothing and do not begin inside a
body, and an error stays the outcome (`run_append`).

1. Bodies grow by blank lines at most, which do nothing in them, so that every function does what
   it does without the lines.
2. A program is run line by line, and nothing takes back what is printed.
-/

namespace DryRun

open Evaluation

/-! ## Blank lines -/

/-- Blank lines behind a body do nothing. -/
theorem runBody_append_blanks {blanks : List Text}
    (hblanks : ∀ line ∈ blanks, Text.isBlankText line = true) (body : List Text)
    (evaluate : Environment → Text → Except EvalError Value) (locals : Environment) :
    runBody evaluate locals (body ++ blanks) = runBody evaluate locals body := by
  apply runBody_eq_of_filter_eq
  have hnone : blanks.filter hasStatement = [] := by
    rw [List.filter_eq_nil_iff]
    intro line hline
    rw [hasStatement_eq_false_iff.2 (trim_stripComment_of_isBlankText (hblanks line hline))]
    exact Bool.false_ne_true
  rw [List.filter_append, hnone, List.append_nil]

namespace Function

/-! ## Functions of two programs -/

/-- Lines that define nothing and do not begin inside a body: the first that is not blank stands at
the margin. -/
structure Appendable (lines : List Text) : Prop where
  header?_eq_none : ∀ line ∈ lines, header? line = none
  indentation_eq_zero : ∀ line, lines.find? (!Text.isBlankText ·) = some line →
    Text.indentation line = 0

variable {appended : List Text}

theorem ofLines?_alike (h : Appendable appended) (line : Text) (later : List Text) :
    Option.Rel Alike (ofLines? line later) (ofLines? line (later ++ appended)) := by
  unfold ofLines?
  cases header? line with
  | none => exact .none
  | some header =>
    refine .some ⟨rfl, rfl, fun evaluate locals => ?_⟩
    dsimp only
    rw [List.takeWhile_append]
    split
    · rename_i hlength
      rw [runBody_append_blanks fun _ hline =>
          isBlankText_of_mem_takeWhile h.indentation_eq_zero hline,
        (List.takeWhile_prefix _).eq_of_length hlength]
    · rfl

/-- Appended lines leave the functions alike. -/
theorem collect_append_alike (h : Appendable appended) (lines : List Text)
    {earlier earlier' : Functions} (hearlier : List.Forall₂ Alike earlier earlier') :
    List.Forall₂ Alike (collect earlier lines) (collect earlier' (lines ++ appended)) := by
  induction lines generalizing earlier earlier' with
  | nil =>
    rw [List.nil_append, collect_eq_of_header?_eq_none earlier' h.header?_eq_none]
    exact hearlier
  | cons line later ih =>
    exact ih (alike_append (ofLines?_alike h line later) hearlier)

end Function

/-! ## Running lines -/

namespace Program

/-- The lines that a program prints. -/
def printedLines (limits : Limits) (source : Source) : Except EvalError (List Text) := do
  let evaluate := evaluate (Function.ofSource source) limits.nesting limits.calls
  let state ← source.lines.foldlM (stepLine evaluate) State.initial
  return state.printed.reverse

theorem run_eq_map_printedLines (limits : Limits) (source : Source) :
    run limits false source = ((printedLines limits source).map (Text.join ['\n'])).mapError
      fun cause => .evaluation cause.message := by
  unfold run output printedLines
  rw [if_neg Bool.false_ne_true]
  dsimp only [bind, Except.bind]
  split <;> rfl

section Steps

variable {evaluate : Environment → Text → Except EvalError Value} {state state' : State}

/-! What is printed stays printed. -/

theorem printed_suffix_of_execute {statement : Statement}
    (h : execute evaluate state statement = .ok state') : state.printed <:+ state'.printed := by
  cases statement with
  | print arguments =>
    obtain ⟨values, -, hstate⟩ := exists_of_bind_eq_ok h
    cases hstate
    exact List.suffix_cons _ _
  | augment name op expression =>
    obtain ⟨right, -, hright⟩ := exists_of_bind_eq_ok h
    obtain ⟨env, -, hstate⟩ := exists_of_bind_eq_ok hright
    cases hstate
    exact List.suffix_rfl
  | assign name expression =>
    obtain ⟨value, -, hstate⟩ := exists_of_bind_eq_ok h
    cases hstate
    exact List.suffix_rfl
  | other =>
    cases h
    exact List.suffix_rfl

theorem printed_suffix_of_stepLine {line : Text} (h : stepLine evaluate state line = .ok state') :
    state.printed <:+ state'.printed := by
  unfold stepLine at h
  dsimp only at h
  split at h
  · cases h
    exact List.suffix_rfl
  · split at h
    · cases h
      exact List.suffix_rfl
    · have hprinted := printed_suffix_of_execute h
      exact hprinted

theorem printed_suffix_of_foldlM {lines : List Text}
    (h : lines.foldlM (stepLine evaluate) state = .ok state') :
    state.printed <:+ state'.printed := by
  induction lines generalizing state with
  | nil =>
    cases h
    exact List.suffix_rfl
  | cons line rest ih =>
    rw [List.foldlM_cons] at h
    obtain ⟨next, hnext, hrest⟩ := exists_of_bind_eq_ok h
    exact (printed_suffix_of_stepLine hnext).trans (ih hrest)

end Steps

/-- Lines that are appended run in the state that the lines before them leave. -/
theorem printedLines_ofText_append {a b : Text} (h : Function.Appendable (Text.lines b))
    (limits : Limits) :
    let evaluate := evaluate (Function.ofSource (.ofText a)) limits.nesting limits.calls
    printedLines limits (.ofText (a ++ '\n' :: b)) = (do
      let state ← (Text.lines a).foldlM (stepLine evaluate) State.initial
      let state ← (Text.lines b).foldlM (stepLine evaluate) state
      return state.printed.reverse) := by
  intro evaluate
  have hlines : (Source.ofText (a ++ '\n' :: b)).lines = Text.lines a ++ Text.lines b :=
    Text.lines_append a b
  have halike : (Function.ofSource (.ofText a)).Alike
      (Function.ofSource (.ofText (a ++ '\n' :: b))) := by
    apply Functions.alike_of_forall₂
    rw [Function.ofSource, Function.ofSource, hlines]
    exact Function.collect_append_alike h _ .nil
  unfold printedLines
  dsimp only
  rw [evaluate_eq_of_alike halike, hlines, List.foldlM_append, bind_assoc]

/-- A program that fails does so whatever is appended, and what it prints stays printed. -/
theorem printedLines_append {a b : Text} (h : Function.Appendable (Text.lines b))
    (limits : Limits) :
    (∀ cause, printedLines limits (.ofText a) = .error cause →
      printedLines limits (.ofText (a ++ '\n' :: b)) = .error cause) ∧
    (∀ before all, printedLines limits (.ofText a) = .ok before →
      printedLines limits (.ofText (a ++ '\n' :: b)) = .ok all → before <+: all) := by
  rw [printedLines_ofText_append h]
  unfold printedLines Source.ofText
  dsimp only
  cases (Text.lines a).foldlM (stepLine _) State.initial with
  | error cause =>
    refine ⟨fun cause' h => h, ?_⟩
    intro before all hbefore
    cases hbefore
  | ok state =>
    constructor
    · intro cause h
      cases h
    · intro before all hbefore hall
      cases hbefore
      obtain ⟨middle, hmiddle, hrest⟩ := exists_of_bind_eq_ok hall
      cases hmiddle
      obtain ⟨state', hstate', hend⟩ := exists_of_bind_eq_ok hrest
      cases hend
      exact List.reverse_prefix.2 (printed_suffix_of_foldlM hstate')

end Program

/-- **Appended lines.** Lines that define nothing and begin at the margin leave the error of a
program that fails, and append to what it prints if they print at all. -/
theorem run_append {a b : Text} (hheader : ∀ line ∈ Text.lines b, Function.header? line = none)
    (hmargin : ∀ line, (Text.lines b).find? (!Text.isBlankText ·) = some line →
      Text.indentation line = 0) (limits : Limits) :
    (∀ error, Program.run limits false (.ofText a) = .error error →
      Program.run limits false (.ofText (a ++ '\n' :: b)) = .error error) ∧
    (∀ output output', Program.run limits false (.ofText a) = .ok output →
      Program.run limits false (.ofText (a ++ '\n' :: b)) = .ok output' →
      ∃ before behind, Program.printedLines limits (.ofText a) = .ok before ∧
        Program.printedLines limits (.ofText (a ++ '\n' :: b)) = .ok (before ++ behind) ∧
        output <+: output' ∧
        (before ≠ [] → behind ≠ [] → output ++ ['\n'] <+: output')) := by
  obtain ⟨hfailed, hprinted⟩ := Program.printedLines_append (a := a) ⟨hheader, hmargin⟩ limits
  rw [Program.run_eq_map_printedLines, Program.run_eq_map_printedLines]
  cases hbefore : Program.printedLines limits (.ofText a) with
  | error cause =>
    rw [hfailed cause hbefore]
    refine ⟨fun error h => h, ?_⟩
    intro output output' houtput
    cases houtput
  | ok before =>
    constructor
    · intro error h
      cases h
    · intro output output' houtput houtput'
      cases houtput
      cases hall : Program.printedLines limits (.ofText (a ++ '\n' :: b)) with
      | error cause =>
        rw [hall] at houtput'
        cases houtput'
      | ok all =>
        rw [hall] at houtput'
        cases houtput'
        obtain ⟨behind, rfl⟩ := hprinted before all hbefore hall
        refine ⟨before, behind, rfl, rfl, Text.join_prefix _ _ _, fun hne hne' => ?_⟩
        rw [Text.join_append hne hne']
        exact ⟨Text.join ['\n'] behind, by rw [List.append_assoc]⟩

/-- Behind a definition, blank lines and prints are appended: in enough room and in too little. -/
theorem run_append_behind_definition :
    let a := "def f(x):\n    return x + '!'\nprint(f('a'))\ndef g():\n    return f('b')".toList
    let b := "\n  \nprint(g())\n    print('end')".toList
    let whole := Source.ofText (a ++ '\n' :: b)
    Program.run ⟨64, 200⟩ false whole = .ok "a!\nb!\nend".toList ∧
      (∃ behind, Program.printedLines ⟨64, 200⟩ whole = .ok ("a!".toList :: behind)) ∧
      Program.run ⟨64, 0⟩ false whole = .error (.evaluation EvalError.recursionLimit.message) := by
  intro a b whole
  have hheader : ∀ line ∈ Text.lines b, Function.header? line = none := by decide +kernel
  have hmargin : ∀ line, (Text.lines b).find? (!Text.isBlankText ·) = some line →
      Text.indentation line = 0 := by
    intro line hline
    have hfirst : (Text.lines b).find? (!Text.isBlankText ·) = some "print(g())".toList := by decide
    rw [hfirst] at hline
    cases hline
    decide
  have houtput : Program.run ⟨64, 200⟩ false (.ofText a) = .ok "a!".toList := by decide +kernel
  have hwhole : Program.run ⟨64, 200⟩ false whole = .ok "a!\nb!\nend".toList := by decide +kernel
  have hfailed : Program.run ⟨64, 0⟩ false (.ofText a) =
      .error (.evaluation EvalError.recursionLimit.message) := by decide +kernel
  have hprinted : Program.printedLines ⟨64, 200⟩ (.ofText a) = .ok ["a!".toList] := by
    decide +kernel
  obtain ⟨-, happend⟩ := run_append hheader hmargin ⟨64, 200⟩
  obtain ⟨before, behind, hbefore, hall, -⟩ := happend _ _ houtput hwhole
  rw [hprinted] at hbefore
  cases hbefore
  exact ⟨hwhole, ⟨behind, hall⟩, (run_append hheader hmargin ⟨64, 0⟩).1 _ hfailed⟩

end DryRun
