import DryRun.Proofs.Function.Collect
import DryRun.Proofs.Function.Header
import DryRun.Proofs.Function.Parts
import DryRun.Proofs.Program.Steps
import DryRun.Proofs.Text.Pieces

/-!
# Functions that nobody calls

The definition of a function behind a program does nothing, if the name of the function does not
occur in the program (`run_append_uncalled`).

1. The functions of the program stay as they are, with one more of the new name.
2. The program passes over the lines of the definition.
-/

namespace DryRun

open Evaluation Text

/-! ## Functions -/

namespace Function

/-- A definition behind a program, of which the body defines nothing, adds its function. -/
theorem exists_ofSource_append (program : Text) {block name parameters : Text} {body : List Text}
    (hname : identifier name = some (name, [])) (hparameters : ')' ∉ parameters)
    (hblock : lines block = headerLine name parameters :: body)
    (hheader : ∀ line ∈ body, header? line = none) :
    ∃ function : Function, function.name = name ∧
      ofSource (.ofText (program ++ '\n' :: block)) = function :: ofSource (.ofText program) := by
  let function : Function :=
    { name
      parameters := parametersOf parameters
      body := body.takeWhile (inBody 0) }
  refine ⟨function, rfl, ?_⟩
  unfold ofSource Source.ofText
  rw [lines_append, hblock, collect_append_of_margin (isBlankText_headerLine name parameters)
    (indentation_headerLine name parameters), collect, ofLines?,
    header?_headerLine hname hparameters, collect_eq_of_header?_eq_none _ hheader]
  rfl

end Function

/-! ## Passing over definitions -/

namespace Program

section Passing

variable (evaluate : Environment → Text → Except EvalError Value)

theorem stepLine_headerLine {name parameters : Text} (hname : identifier name = some (name, []))
    (hcomment : '#' ∉ parameters) (hparameters : ')' ∉ parameters) (state : State) :
    stepLine evaluate state (Function.headerLine name parameters) =
      .ok { state with definition := some 0 } := by
  have hcomment' : '#' ∉ Function.headerLine name parameters := by
    have hnot : '#' ∉ name := not_mem_of_identifier hname (by decide)
    simp [Function.headerLine, hnot, hcomment]
  have hstatement : statementOf (Function.headerLine name parameters) =
      Function.headerLine name parameters := by
    rw [statementOf, stripComment_of_not_mem hcomment', (Function.bare_headerLine _ _).trim_eq]
  unfold stepLine
  dsimp only
  rw [hstatement, Function.indentation_headerLine, state.passes_zero,
    Function.header?_headerLine hname hparameters]
  rfl

/-- The lines of its body are passed over. -/
theorem foldlM_stepLine_body {body : List Text}
    (hbody : ∀ line ∈ body, isBlankText line = true ∨ 0 < indentation line) {state : State}
    (hstate : state.definition = some 0) : body.foldlM (stepLine evaluate) state = .ok state := by
  induction body with
  | nil => rfl
  | cons line rest ih =>
    rw [List.forall_mem_cons] at hbody
    have hstep : stepLine evaluate state line = .ok state := by
      rcases hbody.1 with hblank | hindent
      · exact stepLine_of_codeless (.blank hblank) evaluate state
      · exact if_pos (by simp [State.passes, hstate, hindent])
    rw [List.foldlM_cons, hstep]
    exact ih hbody.2

/-- A definition is passed over. -/
theorem foldlM_stepLine_definition {name parameters : Text} {body : List Text}
    (hname : identifier name = some (name, [])) (hcomment : '#' ∉ parameters)
    (hparameters : ')' ∉ parameters)
    (hbody : ∀ line ∈ body, isBlankText line = true ∨ 0 < indentation line) (state : State) :
    (Function.headerLine name parameters :: body).foldlM (stepLine evaluate) state =
      .ok { state with definition := some 0 } := by
  rw [List.foldlM_cons, stepLine_headerLine evaluate hname hcomment hparameters]
  exact foldlM_stepLine_body evaluate hbody rfl

end Passing

end Program

/-- **Functions that nobody calls.** A definition that follows a program, of a name that does not
occur in it, leaves the outcome as it is: its body is not run, and no other function changes. -/
theorem run_append_uncalled {program name parameters block : Text} {body : List Text}
    (hname : identifier name = some (name, [])) (hfresh : ¬ name <:+: program)
    (hcomment : '#' ∉ parameters) (hparameters : ')' ∉ parameters)
    (hblock : lines block = Function.headerLine name parameters :: body)
    (hbody : ∀ line ∈ body, isBlankText line = true ∨ 0 < indentation line)
    (hheader : ∀ line ∈ body, Function.header? line = none) (limits : Limits) (cancelled : Bool) :
    Program.run limits cancelled (.ofText (program ++ '\n' :: block)) =
      Program.run limits cancelled (.ofText program) := by
  have havoids : ∀ line ∈ lines program, line.Avoids name :=
    fun line hline hmem => hfresh (hmem.trans (isInfix_of_mem_lines hline))
  obtain ⟨function, hfunction, hfunctions⟩ :=
    Function.exists_ofSource_append program hname hparameters hblock hheader
  -- no expression of the program sees the function
  have hvalues : ∀ line ∈ lines program, ∀ part, part <:+: line → ∀ env,
      evaluate (function :: Function.ofSource (.ofText program)) limits.nesting limits.calls env
          part =
        evaluate (Function.ofSource (.ofText program)) limits.nesting limits.calls env part := by
    intro line hline part hpart env
    have hagree := Functions.agreeBut_cons function (Function.ofSource (.ofText program))
    rw [hfunction] at hagree
    have hothers : ∀ other ∈ Function.ofSource (.ofText program), other.Avoids name :=
      Function.avoids_of_mem_collect (by simp) havoids
    exact evaluate_eq_of_avoids hagree hothers _ _ env ((havoids line hline).of_isInfix hpart)
  have hsteps := foldlM_congr (fun line hline => Program.stepLine_congr (hvalues line hline))
    Program.State.initial
  have hlines : (Source.ofText (program ++ '\n' :: block)).lines =
      lines program ++ Function.headerLine name parameters :: body := by
    rw [← hblock]
    exact lines_append program block
  have hprogram : (Source.ofText program).lines = lines program := rfl
  unfold Program.run Program.output
  dsimp only
  rw [hfunctions, hlines, hprogram, List.foldlM_append, hsteps]
  simp only [Program.foldlM_stepLine_definition _ hname hcomment hparameters hbody]
  cases (lines program).foldlM (Program.stepLine _) Program.State.initial with
  | error cause => rfl
  | ok state => rfl

/-- A definition with a default behind a call: its `print` prints nothing. -/
theorem run_append_uncalled_helper :
    let program := "def f(x, y='b'):\n    return x + y\nprint(f('a'))".toList
    let block := "def helper(n, m='c'):\n\n    print('inline')\n    return f(n, m)".toList
    ¬ "helper".toList <:+: program ∧
      Program.run ⟨64, 200⟩ false (.ofText (program ++ '\n' :: block)) = .ok "ab".toList := by
  intro program block
  have hname : identifier "helper".toList = some ("helper".toList, []) := by decide
  have hfresh : ¬ "helper".toList <:+: program := by decide
  have hcomment : '#' ∉ "n, m='c'".toList := by decide
  have hparameters : ')' ∉ "n, m='c'".toList := by decide
  have hblock : lines block = Function.headerLine "helper".toList "n, m='c'".toList ::
      ["".toList, "    print('inline')".toList, "    return f(n, m)".toList] := by decide
  have hbody : ∀ line ∈ ["".toList, "    print('inline')".toList, "    return f(n, m)".toList],
      isBlankText line = true ∨ 0 < indentation line := by decide
  have hheader : ∀ line ∈ ["".toList, "    print('inline')".toList, "    return f(n, m)".toList],
      Function.header? line = none := by decide
  have houtput : Program.run ⟨64, 200⟩ false (.ofText program) = .ok "ab".toList := by
    decide +kernel
  have hsame := run_append_uncalled hname hfresh hcomment hparameters hblock hbody hheader
    ⟨64, 200⟩ false
  exact ⟨hfresh, hsame.trans houtput⟩

end DryRun
