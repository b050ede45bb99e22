import DryRun.Proofs.Function.Collect
import DryRun.Proofs.Loop.StringLines
import DryRun.Proofs.Program.Steps

/-!
# Programs and lines inside strings

Programs and the scan for endless loops read every line from outside strings, so that a line inside
a string acts as code if it reads so by itself (`docstring_read_as_code`). Where none does, the
lines inside strings might as well be `pass` (`string_lines_as_pass`).

1. Bodies of functions.
2. Functions that are defined.
3. Runs.
-/

namespace DryRun

open Evaluation

/-- Whether a line is a `return`. -/
def isReturn (line : Text) : Bool := (returned? (statementOf line)).isSome

namespace Program

/-- Whether a line by itself is no header of a function, and prints and assigns nothing. -/
structure Quiet (line : Text) : Prop where
  header : Function.header? line = none
  statementHeader : Function.header? (statementOf line) = none
  statement : Statement.ofLine (statementOf line) = .other

/-- Whether a line is no `return` either. -/
structure Idle (line : Text) : Prop extends Quiet line where
  result : isReturn line = false

theorem Quiet.assignment?_eq_none {line : Text} (h : Quiet line) :
    assignment? (statementOf line) = none := by
  have hother := h.statement
  unfold Statement.ofLine at hother
  split at hother
  · cases hother
  · split at hother
    · cases hother
    · split at hother
      · cases hother
      · rename_i hassignment
        exact Option.eq_none_iff_forall_ne_some.2 fun _ => hassignment _ _

end Program

open Program

variable {lines lines' : List Text}

/-! ## Bodies -/

theorem runBody_hushed (h : List.Forall₂ (Hushed Idle) lines lines')
    (evaluate : Environment → Text → Except EvalError Value) (locals : Environment) :
    runBody evaluate locals lines' = runBody evaluate locals lines := by
  induction h generalizing locals with
  | nil => rfl
  | @cons line line' lines lines' hline hlines ih =>
    cases hline with
    | same =>
      rw [runBody, runBody]
      simp only [ih]
    | pass hcode hidle =>
      have hreturned : returned? (statementOf line) = none :=
        Option.isSome_eq_false_iff.1 hidle.result |> Option.isNone_iff_eq_none.1
      rw [runBody, statementOf_passFor, runBody, hreturned, hidle.toQuiet.assignment?_eq_none]
      exact ih locals

/-! ## Functions -/

namespace Function

theorem inBody_hushed {line line' : Text} {kind : Text → Prop} (h : Hushed kind line line')
    (indent : Nat) : inBody indent line' = inBody indent line := by
  cases h with
  | same => rfl
  | pass hcode hkind =>
    have hpass := isBlankText_eq_false (not_codeless_passFor line)
    rw [inBody, inBody, isBlankText_eq_false hcode, hpass, indentation_passFor]

theorem takeWhile_inBody_hushed {kind : Text → Prop} (h : List.Forall₂ (Hushed kind) lines lines')
    (indent : Nat) :
    List.Forall₂ (Hushed kind) (lines.takeWhile (inBody indent))
      (lines'.takeWhile (inBody indent)) := by
  induction h with
  | nil => exact .nil
  | @cons line line' lines lines' hline hlines ih =>
    rw [List.takeWhile_cons, List.takeWhile_cons, inBody_hushed hline]
    split
    · exact .cons hline ih
    · exact .nil

theorem ofLines?_hushed {line line' : Text} (hline : Hushed Idle line line')
    (h : List.Forall₂ (Hushed Idle) lines lines') :
    Option.Rel Alike (ofLines? line lines) (ofLines? line' lines') := by
  unfold ofLines?
  cases hline with
  | same =>
    cases header? line with
    | none => exact .none
    | some header =>
      exact .some ⟨rfl, rfl, runBody_hushed (takeWhile_inBody_hushed h _)⟩
  | pass hcode hidle =>
    rw [header?_passFor, hidle.header]
    exact .none

theorem collect_hushed (h : List.Forall₂ (Hushed Idle) lines lines')
    {earlier earlier' : Functions} (hearlier : List.Forall₂ Alike earlier earlier') :
    List.Forall₂ Alike (collect earlier lines) (collect earlier' lines') := by
  induction h generalizing earlier earlier' with
  | nil => exact hearlier
  | cons hline hlines ih => exact ih (alike_append (ofLines?_hushed hline hlines) hearlier)

end Function

/-! ## Runs -/

namespace Program

theorem stepLine_hushed {line line' : Text} (h : Hushed Idle line line')
    (evaluate : Environment → Text → Except EvalError Value) (state : State) :
    stepLine evaluate state line' = stepLine evaluate state line := by
  cases h with
  | same => rfl
  | pass hcode hidle =>
    have hstatement : (statementOf line).isEmpty = false := by
      rw [Bool.eq_false_iff, Ne, List.isEmpty_iff, statementOf_eq_nil_iff]
      exact hcode
    -- both lines end the body that is passed over, and do nothing else
    unfold stepLine
    dsimp only
    rw [statementOf_passFor, indentation_passFor, hstatement, hidle.statementHeader,
      hidle.statement]
    rfl

theorem foldlM_stepLine_hushed (h : List.Forall₂ (Hushed Idle) lines lines')
    (evaluate : Environment → Text → Except EvalError Value) (state : State) :
    lines'.foldlM (stepLine evaluate) state = lines.foldlM (stepLine evaluate) state := by
  induction h generalizing state with
  | nil => rfl
  | cons hline hlines ih =>
    rw [List.foldlM_cons, List.foldlM_cons, stepLine_hushed hline]
    simp only [ih]

/-- What lines inside strings hold does not matter to a program where they are quiet by
themselves. -/
theorem run_hushed {source : Source} (h : ∀ line ∈ source.stringLines, Quiet line)
    (limits : Limits) (cancelled : Bool) :
    run limits cancelled (source.hushed isReturn) = run limits cancelled source := by
  have hlines : List.Forall₂ (Hushed Idle) source.lines (source.hushed isReturn).lines :=
    Source.forall₂_hushed fun line hline hresult => { toQuiet := h line hline, result := hresult }
  have halike : (Function.ofSource source).Alike (Function.ofSource (source.hushed isReturn)) :=
    Functions.alike_of_forall₂ (Function.collect_hushed hlines .nil)
  unfold run output
  dsimp only
  rw [evaluate_eq_of_alike halike, foldlM_stepLine_hushed hlines]

end Program

/-- **Lines inside strings.** Where no line that begins inside a string heads or leaves an endless
loop by itself, none is reported, and all of them might as well be `pass` to the report. Where none
prints, assigns or heads a function by itself, they might as well be `pass` to the program, but for
those that read as a `return`. -/
theorem string_lines_as_pass (source : Source) :
    ((∀ line ∈ source.stringLines, Loop.Quiet line) →
      Loop.check (source.hushed fun _ => false) = Loop.check source ∧
        ∀ finding, Loop.check source = some finding →
          ∀ line, source.line? finding.line = some line → line ∉ source.stringLines) ∧
    ((∀ line ∈ source.stringLines, Program.Quiet line) → ∀ limits cancelled,
      Program.run limits cancelled (source.hushed isReturn) =
        Program.run limits cancelled source) :=
  ⟨Loop.check_hushed, run_hushed⟩

/-- A string in the body of a loop, with a comment and a colon in it. -/
theorem string_lines_as_pass_in_loop :
    let source : Source := ⟨["while True:".toList, "    '''".toList,
      "  until: # break".toList, "    '''".toList, "print('a')".toList]⟩
    let hushed : Source := ⟨["while True:".toList, "    '''".toList,
      "  pass".toList, "    pass".toList, "print('a')".toList]⟩
    Loop.check hushed = Loop.check source ∧
      Program.run ⟨64, 200⟩ false hushed = Program.run ⟨64, 200⟩ false source := by
  intro source hushed
  have hstrings : source.stringLines = ["  until: # break".toList, "    '''".toList] := by
    decide +kernel
  have hloop : ∀ line ∈ source.stringLines, Loop.Quiet line := by
    have hnone : ∀ line ∈ source.stringLines, Loop.inlineBody? (statementOf line) = none := by
      rw [hstrings]
      decide +kernel
    have hexit : ∀ line ∈ source.stringLines, Loop.hasBreak line = false := by
      rw [hstrings]
      decide +kernel
    intro line hline
    refine ⟨fun body hbody => ?_, fun hbreak => ?_⟩
    · rw [hnone line hline] at hbody
      cases hbody
    · rw [hexit line hline] at hbreak
      cases hbreak
  have hprogram : ∀ line ∈ source.stringLines, Program.Quiet line := by
    rw [hstrings, List.forall_mem_cons, List.forall_mem_singleton]
    constructor
    · exact ⟨by decide +kernel, by decide +kernel, by decide +kernel⟩
    · exact ⟨by decide +kernel, by decide +kernel, by decide +kernel⟩
  obtain ⟨hcheck, hrun⟩ := string_lines_as_pass source
  have hall : source.hushed (fun _ => false) = hushed := by decide +kernel
  have hreturns : source.hushed isReturn = hushed := by decide +kernel
  have hreport := (hcheck hloop).1
  have houtput := hrun hprogram ⟨64, 200⟩ false
  rw [hall] at hreport
  rw [hreturns] at houtput
  exact ⟨hreport, houtput⟩

/-- A header and a `print` inside strings. -/
theorem docstring_read_as_code :
    let loop : Source := ⟨["'''".toList, "while True:".toList, "'''".toList]⟩
    let print : Source := ⟨["'''".toList, "print('a')".toList, "'''".toList]⟩
    ("while True:".toList ∈ loop.stringLines ∧
      Loop.check loop = some ⟨"while True:".toList, 2⟩) ∧
    ("print('a')".toList ∈ print.stringLines ∧
      Program.run ⟨64, 200⟩ false print = .ok "a".toList) := by
  intro loop print
  refine ⟨⟨?_, ?_⟩, ?_, ?_⟩
  · decide +kernel
  · decide +kernel
  · decide +kernel
  · decide +kernel

end DryRun
