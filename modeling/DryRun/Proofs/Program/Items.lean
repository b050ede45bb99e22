import DryRun.Proofs.Evaluation.Lists
import DryRun.Proofs.Program.Steps

/-!
# Items by themselves

The items of a list and the arguments of a `print` are evaluated one by one, from left to right, and
each has the whole room and all the calls: what one of them takes is there again for the next
(`evaluate_items`).

1. The line of a `print`.
2. Its step, and the values of its arguments.
-/

namespace DryRun

open Expression Evaluation Text

namespace Program

/-! ## Printing -/

/-- The line that prints what stands between its parentheses, at the margin. -/
def printLine (arguments : Text) : Text := "print(".toList ++ (arguments ++ [')'])

variable {arguments : Text}

theorem bare_printLine (arguments : Text) : Bare (printLine arguments) := by
  show Bare ('p' :: (("rint(".toList ++ arguments) ++ [')']))
  exact .enclosed (by decide) (by decide) _

theorem statementOf_printLine (hcomment : '#' ∉ arguments) :
    statementOf (printLine arguments) = printLine arguments := by
  have hcomment' : '#' ∉ printLine arguments := by
    show '#' ∉ "print(".toList ++ (arguments ++ [')'])
    simp [hcomment]
  rw [statementOf, stripComment_of_not_mem hcomment', (bare_printLine arguments).trim_eq]

theorem printed?_printLine (arguments : Text) :
    printed? (printLine arguments) = some arguments := by
  have hword : Pattern.word "print" (printLine arguments) =
      some ((), '(' :: (arguments ++ [')'])) := rfl
  have hopening : after? "(" (trimStart ('(' :: (arguments ++ [')']))) =
      some (arguments ++ [')']) := rfl
  have hclosing : beforeLast? ')' (arguments ++ [')']) = some arguments := by
    rw [beforeLast?, List.getLast?_concat, if_pos rfl, List.dropLast_concat]
  simp [printed?, hword, hopening, hclosing]

theorem header?_printLine (arguments : Text) : Function.header? (printLine arguments) = none := by
  unfold Function.header?
  rw [(bare_printLine arguments).trim_eq]
  rfl

/-- A line that prints does so in every state. -/
theorem stepLine_printLine (hcomment : '#' ∉ arguments)
    (evaluate : Environment → Text → Except EvalError Value) (state : State) :
    stepLine evaluate state (printLine arguments) =
      execute evaluate { state with definition := none } (.print arguments) := by
  have hstatement : Statement.ofLine (printLine arguments) = .print arguments := by
    simp [Statement.ofLine, printed?_printLine]
  have hmargin : indentation (printLine arguments) = 0 := rfl
  unfold stepLine
  dsimp only
  rw [statementOf_printLine hcomment, hmargin, state.passes_zero, header?_printLine, hstatement]
  rfl

theorem stepLine_printLine_join {texts : List Text} (hsealed : ∀ text ∈ texts, Sealed 0 text)
    (hblank : ∀ text ∈ texts, isBlankText text = false) (hcomment : ∀ text ∈ texts, '#' ∉ text)
    (functions : Functions) (nesting calls : Nat) (state : State) :
    stepLine (evaluate functions nesting calls) state
        (printLine (Text.join ", ".toList texts)) = do
      let values ← texts.mapM (evaluate functions nesting calls state.env)
      return { env := state.env
               printed := Text.join [' '] (values.map Value.shown) :: state.printed
               definition := none } := by
  have hcomment' : '#' ∉ Text.join ", ".toList texts := by
    intro hmem
    rcases mem_join hmem with hmem | ⟨text, htext, hmem⟩
    · revert hmem
      decide
    · exact hcomment text htext hmem
  rw [stepLine_printLine hcomment', execute]
  dsimp only
  rw [mapM_splitItems_join functions nesting calls state.env hsealed hblank]

end Program

/-- **Items by themselves.** For texts that are not blank, with their quotes closed, their brackets
nested and no comma outside of both, the list of them has their values, each in one level less than
the list, or else the first error; and a line of a program that prints them shows their values with
spaces between them, each in all of the room and the calls that the program has. -/
theorem evaluate_items {texts : List Text} (hbalanced : ∀ text ∈ texts, Balanced false text)
    (hblank : ∀ text ∈ texts, isBlankText text = false) :
    (∀ (functions : Functions) (nesting calls : Nat) (env : Environment),
      evaluate functions (nesting + 1) calls env
          ('[' :: (Text.join ", ".toList texts ++ [']'])) = do
        let values ← texts.mapM (evaluate functions nesting calls env)
        return .list values) ∧
    ((∀ text ∈ texts, '#' ∉ text) → ∀ (limits : Limits) (before behind : List Text),
      let source : Source :=
        ⟨before ++ Program.printLine (Text.join ", ".toList texts) :: behind⟩
      let evaluate := evaluate (Function.ofSource source) limits.nesting limits.calls
      Program.output limits source = do
        let state ← before.foldlM (Program.stepLine evaluate) Program.State.initial
        let values ← texts.mapM (evaluate state.env)
        let printed : Program.State :=
          { env := state.env
            printed := Text.join [' '] (values.map Value.shown) :: state.printed
            definition := none }
        let last ← behind.foldlM (Program.stepLine evaluate) printed
        return Text.join ['\n'] last.printed.reverse) := by
  have hsealed : ∀ text ∈ texts, Sealed 0 text :=
    fun text htext => (hbalanced text htext).sealed_toNat
  refine ⟨fun functions nesting calls env => ?list, fun hcomment limits before behind => ?print⟩
  case list => exact evaluate_joined functions nesting calls env hsealed hblank
  case print =>
    dsimp only
    unfold Program.output
    dsimp only
    simp only [List.foldlM_append, List.foldlM_cons, bind_assoc, pure_bind,
      Program.stepLine_printLine_join hsealed hblank hcomment]

/-- A call of a function and of a type, and a text in quotes: they hold commas, brackets and the
other quote. -/
theorem evaluate_items_with_calls :
    let texts := ["f(['],', 1])".toList, " type([2, 3])".toList, "\"it's (\"".toList]
    let source : Source := ⟨["def f(x):".toList, "    return type(x)".toList,
      Program.printLine (Text.join ", ".toList texts)]⟩
    (∀ text ∈ texts, Balanced false text) ∧ (∀ text ∈ texts, isBlankText text = false) ∧
      (∀ text ∈ texts, '#' ∉ text) ∧
      (evaluate (Function.ofSource source) 4 1 []
          ('[' :: (Text.join ", ".toList texts ++ [']']))).map Value.length = .ok 3 ∧
      Program.output ⟨1, 3⟩ source = .ok "<class 'list'> <class 'list'> it's (".toList := by
  intro texts source
  have hcall : Balanced false "f(['],', 1])".toList := by
    have hitems : Balanced true "'],', 1".toList :=
      .quoted .single "],".toList (by decide)
        (.char (by decide) (by decide) (fun _ => rfl)
          (.plain_append " 1".toList (by decide) (.nil true)))
    exact .plain_append ['f'] (by decide)
      (.enclosed .round (.enclosed .square hitems (.nil true)) (.nil false))
  have htype : Balanced false " type([2, 3])".toList := by
    have hitems : Balanced true "2, 3".toList :=
      .char (by decide) (by decide) nofun
        (.char (by decide) (by decide) (fun _ => rfl)
          (.plain_append " 3".toList (by decide) (.nil true)))
    exact .plain_append " type".toList (by decide)
      (.enclosed .round (.enclosed .square hitems (.nil true)) (.nil false))
  have hquoted : Balanced false "\"it's (\"".toList :=
    .quoted .double "it's (".toList (by decide) (.nil false)
  have hbalanced : ∀ text ∈ texts, Balanced false text := by
    simp only [texts, List.forall_mem_cons]
    exact ⟨hcall, htype, hquoted, nofun⟩
  have hblank : ∀ text ∈ texts, isBlankText text = false := by decide
  have hcomment : ∀ text ∈ texts, '#' ∉ text := by decide
  obtain ⟨hevaluate, houtput⟩ := evaluate_items hbalanced hblank
  refine ⟨hbalanced, hblank, hcomment, ?_, ?_⟩
  · rw [hevaluate (Function.ofSource source) 3 1 []]
    decide +kernel
  · refine (houtput hcomment ⟨1, 3⟩ ["def f(x):".toList, "    return type(x)".toList] []).trans ?_
    decide +kernel

end DryRun
