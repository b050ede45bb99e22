import DryRun.Proofs.Function.Colon
import DryRun.Proofs.Program.Appended
import DryRun.Proofs.Program.Uncalled

/-!
# Definitions in one line

A header may have its `return` behind the colon, but a body is made of later lines only: the text
behind the colon is lost, and the function yields `None` where no body follows
(`run_one_line_definition`). It does the same as the definition in two lines where nobody calls it.

1. The functions of a source with a header line, and who sees them.
2. The steps of a header line, and of a line below it.
3. Programs with more behind the colon, or with a line more.
-/

namespace DryRun

open Evaluation Text Unicode

/-! ## Functions -/

namespace Function

variable {name : Text}

/-- Functions are added in front of those that there are. -/
theorem collect_eq_append (earlier : Functions) (lines : List Text) :
    collect earlier lines = collect [] lines ++ earlier := by
  induction lines generalizing earlier with
  | nil => rfl
  | cons line later ih =>
    rw [collect, collect, ih, ih ((ofLines? line later).toList ++ []), List.append_nil,
      List.append_assoc]

theorem find?_collect (earlier : Functions) (lines : List Text) (other : Text) :
    (collect earlier lines).find? other =
      ((collect [] lines).find? other).or (earlier.find? other) := by
  rw [collect_eq_append]
  exact List.find?_append

theorem agreeBut_collect {earlier earlier' : Functions} (h : earlier.AgreeBut name earlier')
    (lines : List Text) : (collect earlier lines).AgreeBut name (collect earlier' lines) := by
  intro other hother
  rw [find?_collect, find?_collect earlier, h other hother]

/-- A name that a line defines has a function. -/
theorem isSome_find?_collect {lines : List Text} {line : Text} (hline : line ∈ lines)
    {found : Header} (hheader : header? line = some found) :
    ((collect [] lines).find? found.name).isSome = true := by
  induction lines with
  | nil => cases hline
  | cons first later ih =>
    rw [collect, List.append_nil, find?_collect, Option.isSome_or, Bool.or_eq_true]
    rcases List.mem_cons.1 hline with rfl | hline
    · right
      unfold ofLines?
      rw [hheader]
      simp [Functions.find?]
    · exact .inl (ih hline)

/-- Functions that differ in a name do not differ where a later line defines it. -/
theorem find?_collect_of_header {earlier earlier' : Functions} (h : earlier.AgreeBut name earlier')
    {lines : List Text} {line : Text} (hline : line ∈ lines) {found : Header}
    (hheader : header? line = some found) (hfound : found.name = name) (other : Text) :
    (collect earlier' lines).find? other = (collect earlier lines).find? other := by
  by_cases hother : other = name
  · have hsome := isSome_find?_collect hline hheader
    rw [hfound, ← hother] at hsome
    obtain ⟨function, hfunction⟩ := Option.isSome_iff_exists.1 hsome
    rw [find?_collect, find?_collect earlier, hfunction, Option.some_or, Option.some_or]
  · exact agreeBut_collect h lines other hother

section HeaderLines

variable (hname : identifier name = some (name, [])) (parameters : Text)

include hname

/-- What stands behind the colon of a header is no part of the function. -/
theorem ofLines?_headerLine_append (rest : Text) (later : List Text) :
    ofLines? (headerLine name parameters ++ rest) later =
      ofLines? (headerLine name parameters) later := by
  unfold ofLines?
  rw [header?_headerLine_append parameters rest hname]
  rfl

theorem ofSource_headerLine_append (rest : Text) (before behind : List Text) :
    ofSource ⟨before ++ (headerLine name parameters ++ rest) :: behind⟩ =
      collect ((ofLines? (headerLine name parameters) behind).toList ++ collect [] before)
        behind := by
  have hblank : isBlankText (headerLine name parameters ++ rest) = false := rfl
  have hmargin : indentation (headerLine name parameters ++ rest) = 0 := rfl
  unfold ofSource
  rw [collect_append_of_margin hblank hmargin, collect,
    ofLines?_headerLine_append hname parameters]

theorem name_of_ofLines? {later : List Text} {function : Function}
    (h : ofLines? (headerLine name parameters) later = some function) : function.name = name := by
  obtain ⟨found, hfound, rfl⟩ := Option.map_eq_some_iff.1 h
  obtain ⟨⟨found', left⟩, hread, rfl⟩ := Option.map_eq_some_iff.1 hfound
  rw [(bare_headerLine name parameters).trim_eq, headerLine, header_append hname] at hread
  exact name_of_headerInside hread

/-- The function of a header is the only one that can differ. -/
theorem agreeBut_headerLine (later : List Text) (earlier : Functions) :
    earlier.AgreeBut name ((ofLines? (headerLine name parameters) later).toList ++ earlier) := by
  cases hfunction : ofLines? (headerLine name parameters) later with
  | none => exact fun other hother => rfl
  | some function =>
    have hagree := Functions.agreeBut_cons function earlier
    rwa [name_of_ofLines? hname parameters hfunction] at hagree

end HeaderLines

end Function

/-! ## Values -/

/-- Lines that never see the function of a header between them: its name does not occur in them, or
a later line defines it again. -/
def Unseen (name : Text) (before behind : List Text) : Prop :=
  (∀ line ∈ before ++ behind, line.Avoids name) ∨
    ∃ line ∈ behind, ∃ found, Function.header? line = some found ∧ found.name = name

/-- What the function is makes no difference to lines that never see it. -/
theorem evaluate_eq_of_unseen {name : Text} {before behind : List Text}
    (h : Unseen name before behind) {earlier earlier' : Functions}
    (hearlier : (Function.collect [] before).AgreeBut name earlier)
    (hearlier' : (Function.collect [] before).AgreeBut name earlier') (nesting calls : Nat)
    {line : Text} (hline : line ∈ before ++ behind) {part : Text} (hpart : part <:+: line)
    (env : Environment) :
    evaluate (Function.collect earlier' behind) nesting calls env part =
      evaluate (Function.collect earlier behind) nesting calls env part := by
  rcases h with havoids | ⟨header, hheader, found, hfound, hname⟩
  · -- both agree with the functions of the other lines, where the name does not occur
    have hbefore : ∀ line ∈ before, line.Avoids name :=
      fun line hmem => havoids line (List.mem_append_left behind hmem)
    have hbehind : ∀ line ∈ behind, line.Avoids name :=
      fun line hmem => havoids line (List.mem_append_right before hmem)
    have hothers : ∀ other ∈ Function.collect (Function.collect [] before) behind,
        other.Avoids name :=
      Function.avoids_of_mem_collect (Function.avoids_of_mem_collect (by simp) hbefore) hbehind
    have htext := (havoids line hline).of_isInfix hpart
    exact (evaluate_eq_of_avoids (Function.agreeBut_collect hearlier' behind) hothers _ _ env
      htext).trans (evaluate_eq_of_avoids (Function.agreeBut_collect hearlier behind) hothers _ _
        env htext).symm
  · have hagree : earlier.AgreeBut name earlier' :=
      fun other hother => (hearlier' other hother).trans (hearlier other hother).symm
    have halike : (Function.collect earlier behind).Alike (Function.collect earlier' behind) := by
      intro other
      rw [Function.find?_collect_of_header hagree hheader hfound hname]
      cases (Function.collect earlier behind).find? other with
      | none => exact .none
      | some function => exact .some (.refl function)
    rw [evaluate_eq_of_alike halike]

/-! ## Steps -/

namespace Program

section Keyword

/-- A statement takes `def` for a name. -/
theorem identifier_def (first : Char) (left : Text) :
    identifier ("def ".toList ++ first :: left) = some ("def".toList, ' ' :: first :: left) :=
  identifier_append (by decide : identifier "def".toList = some ("def".toList, [])) (by decide)
    (first :: left)

variable {first : Char} (hfirst : isNameStart first = true) (left : Text)

include hfirst

theorem trimStart_behind_def : trimStart (' ' :: first :: left) = first :: left := by
  unfold trimStart
  rw [List.dropWhile_cons_of_pos (by decide),
    List.dropWhile_cons_of_neg (Bool.eq_false_iff.1 (isBlank_eq_false_of_isNameStart hfirst))]

theorem augmented?_def : augmented? ("def ".toList ++ first :: left) = none := by
  have hne : ∀ {c : Char}, isNameStart c = false → first ≠ c := ne_of_isNameStart hfirst
  have hoperator : Operator.ofChar? first = none := by
    rw [Operator.ofChar?, if_neg (hne (by decide)), if_neg (hne (by decide)),
      if_neg (hne (by decide)), if_neg (hne (by decide))]
  unfold augmented?
  rw [identifier_def]
  dsimp only [Option.bind_eq_bind, Option.bind_some]
  rw [trimStart_behind_def hfirst]
  cases left with
  | nil => rfl
  | cons c left =>
    split
    · rename_i heq
      cases heq
      rw [hoperator]
      rfl
    · rfl

theorem assignment?_def : assignment? ("def ".toList ++ first :: left) = none := by
  have hequals : after? "=" (first :: left) = none := by
    have hne : ¬ ('=' == first) = true := by
      rw [beq_iff_eq]
      exact (ne_of_isNameStart hfirst (by decide)).symm
    show List.isPrefixOf? ['='] (first :: left) = none
    rw [List.isPrefixOf?, if_neg hne]
  unfold assignment?
  rw [identifier_def]
  dsimp only [Option.bind_eq_bind, Option.bind_some]
  rw [trimStart_behind_def hfirst, hequals]
  rfl

theorem ofLine_def : Statement.ofLine ("def ".toList ++ first :: left) = .other := by
  have hprinted : printed? ("def ".toList ++ first :: left) = none := rfl
  unfold Statement.ofLine
  rw [hprinted, augmented?_def hfirst, assignment?_def hfirst]

end Keyword

section Lines

variable {name : Text} (hname : identifier name = some (name, [])) (parameters : Text)
  (state : State)

include hname

/-- A header line does nothing but to tell whether a body may begin, whatever is behind its
colon. -/
theorem exists_stepLine_headerLine :
    ∃ next : State, (next.definition = some 0 ∨ next.definition = none) ∧
      ∀ evaluate rest,
        stepLine evaluate state (Function.headerLine name parameters ++ rest) = .ok next := by
  refine ⟨{ state with
    definition :=
      if (Function.header? (statementOf (Function.headerLine name parameters))).isSome then some 0
      else none }, ?_, fun evaluate rest => ?_⟩
  · dsimp only
    split
    · exact .inl rfl
    · exact .inr rfl
  · obtain ⟨first, left, hfirst, hstatement⟩ :=
      Function.exists_statementOf_headerLine parameters rest hname
    have hmargin : indentation (Function.headerLine name parameters ++ rest) = 0 := rfl
    have hother : Statement.ofLine (statementOf (Function.headerLine name parameters ++ rest)) =
        .other := by
      rw [hstatement, ofLine_def hfirst]
    have hsome : (statementOf (Function.headerLine name parameters ++ rest)).isEmpty = false := by
      rw [hstatement]
      rfl
    unfold stepLine
    dsimp only
    rw [hmargin, state.passes_zero, hother, hsome,
      Function.header?_statementOf_append parameters rest hname]
    cases (Function.header? (statementOf (Function.headerLine name parameters))).isSome <;> rfl

end Lines

/-- An indented line that is no statement does nothing where a body may begin, nor where none
may. -/
theorem stepLine_of_other {line : Text} (hindent : 0 < indentation line)
    (hheader : Function.header? (statementOf line) = none)
    (hother : Statement.ofLine (statementOf line) = .other) {state : State}
    (hstate : state.definition = some 0 ∨ state.definition = none)
    (evaluate : Environment → Text → Except EvalError Value) :
    stepLine evaluate state line = .ok state := by
  unfold stepLine
  dsimp only
  rw [hheader, hother]
  rcases hstate with hbody | hnone
  · have hpasses : state.passes (indentation line) = true := by
      simp [State.passes, hbody, hindent]
    rw [hpasses, Bool.or_true]
    rfl
  · have hpasses : state.passes (indentation line) = false := by
      simp [State.passes, hnone]
    have hsame : { state with definition := none } = state := by
      cases state
      cases hnone
      rfl
    rw [hpasses, Bool.or_false, hsame]
    split <;> rfl

end Program

/-! ## Lines with a return -/

section Returns

variable {margin : Text} (hmargin : isBlankText margin = true) (expression : Text)

include hmargin

theorem header?_return :
    Function.header? (margin ++ ("return ".toList ++ expression)) = none := by
  have htrim : trim ("return ".toList ++ expression) =
      'r' :: trimEnd ("eturn ".toList ++ expression) :=
    trim_append_cons (c := 'r') (by decide) [] _
  unfold Function.header?
  rw [trim_blanks_append hmargin, htrim]
  rfl

theorem header?_statementOf_return :
    Function.header? (statementOf (margin ++ ("return ".toList ++ expression))) = none := by
  rw [statementOf_blanks_append hmargin, statementOf, Function.header?, trim_trim]
  have hstarts : ∃ left, stripComment ("return ".toList ++ expression) = 'r' :: left := by
    rcases stripComment_append (c := 'r') (by decide) (by decide) [] ("eturn ".toList ++ expression)
      with hsame | ⟨-, hlonger⟩
    · exact ⟨[], hsame⟩
    · exact hlonger
  obtain ⟨left, hleft⟩ := hstarts
  have htrim : trim ('r' :: left) = 'r' :: trimEnd left :=
    trim_append_cons (c := 'r') (by decide) [] left
  rw [hleft, htrim]
  rfl

end Returns

/-! ## Programs -/

section Programs

variable {name : Text} (hname : identifier name = some (name, [])) (parameters : Text)
  (before behind : List Text) (limits : Limits) (cancelled : Bool)

include hname

/-- What stands behind the colon of a header is not read. -/
theorem run_headerLine_append (rest : Text) :
    Program.run limits cancelled
        ⟨before ++ (Function.headerLine name parameters ++ rest) :: behind⟩ =
      Program.run limits cancelled ⟨before ++ Function.headerLine name parameters :: behind⟩ := by
  have hfunctions := Function.ofSource_headerLine_append hname parameters
  have halone := hfunctions [] before behind
  rw [List.append_nil] at halone
  have hsteps : ∀ evaluate state,
      Program.stepLine evaluate state (Function.headerLine name parameters ++ rest) =
        Program.stepLine evaluate state (Function.headerLine name parameters) := by
    intro evaluate state
    obtain ⟨next, -, hnext⟩ := Program.exists_stepLine_headerLine hname parameters state
    have hstep := hnext evaluate []
    rw [List.append_nil] at hstep
    rw [hnext, hstep]
  unfold Program.run Program.output
  simp only [hfunctions, halone, List.foldlM_append, List.foldlM_cons, hsteps]

/-- Where the other lines do the same, an indented line below a header that is no statement makes
no difference. -/
theorem foldlM_stepLine_insert {line : Text} (hindent : 0 < indentation line)
    (hheader : Function.header? (statementOf line) = none)
    (hother : Program.Statement.ofLine (statementOf line) = .other)
    {f f' : Environment → Text → Except EvalError Value}
    (hlines : ∀ other ∈ before ++ behind, ∀ state,
      Program.stepLine f' state other = Program.stepLine f state other) (state : Program.State) :
    (before ++ Function.headerLine name parameters :: line :: behind).foldlM
        (Program.stepLine f') state =
      (before ++ Function.headerLine name parameters :: behind).foldlM
        (Program.stepLine f) state := by
  have hbefore := foldlM_congr
    (fun other hmem => hlines other (List.mem_append_left behind hmem)) state
  have hbehind := fun state => foldlM_congr
    (fun other hmem => hlines other (List.mem_append_right before hmem)) state
  have hmiddle : ∀ state,
      (Function.headerLine name parameters :: line :: behind).foldlM (Program.stepLine f') state =
        (Function.headerLine name parameters :: behind).foldlM (Program.stepLine f) state := by
    intro state
    obtain ⟨next, hnext, hheaderLine⟩ :=
      Program.exists_stepLine_headerLine hname parameters state
    have hstep := fun evaluate => hheaderLine evaluate []
    rw [List.append_nil] at hstep
    rw [foldlM_cons_of_ok (hstep f'), foldlM_cons_of_ok (hstep f),
      foldlM_cons_of_ok (Program.stepLine_of_other hindent hheader hother hnext f')]
    exact hbehind next
  rw [List.foldlM_append, List.foldlM_append, hbefore]
  simp only [hmiddle]

/-- So it makes none to the program, if no other line sees the function. -/
theorem run_headerLine_insert (hunseen : Unseen name before behind) {line : Text}
    (hindent : 0 < indentation line) (hheader : Function.header? line = none)
    (hstatement : Function.header? (statementOf line) = none)
    (hother : Program.Statement.ofLine (statementOf line) = .other) :
    Program.run limits cancelled
        ⟨before ++ Function.headerLine name parameters :: line :: behind⟩ =
      Program.run limits cancelled ⟨before ++ Function.headerLine name parameters :: behind⟩ := by
  have hfunctions := fun behind =>
    Function.ofSource_headerLine_append hname parameters [] before behind
  simp only [List.append_nil] at hfunctions
  have hnone : Function.ofLines? line behind = none := by
    unfold Function.ofLines?
    rw [hheader]
    rfl
  have hinserted : Function.ofSource
      ⟨before ++ Function.headerLine name parameters :: line :: behind⟩ =
      Function.collect ((Function.ofLines? (Function.headerLine name parameters)
        (line :: behind)).toList ++ Function.collect [] before) behind := by
    rw [hfunctions, Function.collect, hnone]
    rfl
  have hlines : ∀ other ∈ before ++ behind, ∀ state,
      Program.stepLine (evaluate (Function.ofSource
          ⟨before ++ Function.headerLine name parameters :: line :: behind⟩)
        limits.nesting limits.calls) state other =
      Program.stepLine (evaluate (Function.ofSource
          ⟨before ++ Function.headerLine name parameters :: behind⟩)
        limits.nesting limits.calls) state other := by
    intro other hmem state
    rw [hinserted, hfunctions]
    refine Program.stepLine_congr (fun part hpart env => ?_) state
    exact evaluate_eq_of_unseen hunseen (Function.agreeBut_headerLine hname parameters _ _)
      (Function.agreeBut_headerLine hname parameters _ _) _ _ hmem hpart env
  have hrun := foldlM_stepLine_insert hname parameters before behind hindent hstatement hother
    hlines Program.State.initial
  unfold Program.run Program.output
  dsimp only
  rw [hrun]

end Programs

/-- **Definitions in one line.** A `return` behind the colon of a header is lost: the program does
what it does with the header alone, and where no body follows at once, the function yields `None`.
So the definition does the same as the one with the `return` in a line of its own where no other
line sees the function. -/
theorem run_one_line_definition {name expression margin : Text} (parameters : Text)
    (hname : identifier name = some (name, [])) (hmargin : isBlankText margin = true)
    (hindent : margin ≠ [])
    (hother : Program.Statement.ofLine (statementOf (margin ++ ("return ".toList ++ expression))) =
      .other) (before behind : List Text) (limits : Limits) (cancelled : Bool) :
    let header := Function.headerLine name parameters
    let oneLine := header ++ (" return ".toList ++ expression)
    let returned := margin ++ ("return ".toList ++ expression)
    Program.run limits cancelled ⟨before ++ oneLine :: behind⟩ =
        Program.run limits cancelled ⟨before ++ header :: behind⟩ ∧
      ((∀ line, behind.find? (!isBlankText ·) = some line → indentation line = 0) →
        ∀ function, Function.ofLines? oneLine behind = some function →
          ∀ evaluate locals, runBody evaluate locals function.body = .ok .none) ∧
      (Unseen name before behind →
        Program.run limits cancelled ⟨before ++ oneLine :: behind⟩ =
          Program.run limits cancelled ⟨before ++ header :: returned :: behind⟩) := by
  intro header oneLine returned
  refine ⟨?lost, ?yields, ?unseen⟩
  case lost => exact run_headerLine_append hname parameters before behind limits cancelled _
  case yields =>
    intro hbehind function hfunction evaluate locals
    obtain ⟨found, -, rfl⟩ := Option.map_eq_some_iff.1 hfunction
    exact runBody_append_blanks
      (fun _ hline => Function.isBlankText_of_mem_takeWhile hbehind hline) [] evaluate locals
  case unseen =>
    intro hunseen
    have hreturned : 0 < indentation returned := by
      have hlength := List.length_pos_of_ne_nil hindent
      rw [indentation_blanks_append hmargin]
      omega
    rw [run_headerLine_append hname, run_headerLine_insert hname parameters before behind limits
      cancelled hunseen hreturned (header?_return hmargin expression)
      (header?_statementOf_return hmargin expression) hother]

/-- A function with a sign of a comment in its default, of which only the second definition is
called. -/
theorem run_one_line_definition_redefined :
    let header := Function.headerLine "f".toList "x='#'".toList
    let behind := ["".toList, "def f(x):".toList, "    return x".toList, "print(f('a'))".toList]
    let oneLine : Source := ⟨(header ++ " return len(x)".toList) :: behind⟩
    let twoLines : Source := ⟨header :: "\treturn len(x)".toList :: behind⟩
    (∀ function, Function.ofLines? (header ++ " return len(x)".toList) behind = some function →
      ∀ evaluate locals, runBody evaluate locals function.body = .ok .none) ∧
    Program.run ⟨64, 200⟩ false oneLine = .ok "a".toList ∧
      Program.run ⟨64, 200⟩ false twoLines = .ok "a".toList := by
  intro header behind oneLine twoLines
  have hname : identifier "f".toList = some ("f".toList, []) := by decide
  have hmargin : isBlankText "\t".toList = true := by decide
  have hindent : "\t".toList ≠ [] := by decide
  have hother : Program.Statement.ofLine (statementOf
      ("\t".toList ++ ("return ".toList ++ "len(x)".toList))) = .other := by decide
  have hbehind : ∀ line, behind.find? (!isBlankText ·) = some line → indentation line = 0 := by
    intro line hline
    cases hline
    rfl
  have hunseen : Unseen "f".toList [] behind :=
    .inr ⟨"def f(x):".toList, by decide, ⟨"f".toList, "x".toList⟩, by decide, rfl⟩
  obtain ⟨-, hyields, hsame⟩ := run_one_line_definition "x='#'".toList hname hmargin hindent
    hother [] behind ⟨64, 200⟩ false
  have houtput : Program.run ⟨64, 200⟩ false oneLine = .ok "a".toList := by decide +kernel
  exact ⟨hyields hbehind, houtput, (hsame hunseen).symm.trans houtput⟩

/-- A call sees the difference: the definition in one line has no value to return. -/
theorem one_line_definition_loses_return :
    Program.run ⟨64, 200⟩ false ⟨["def f(): return 'a'".toList, "print(type(f()))".toList]⟩ =
        .ok "<class 'NoneType'>".toList ∧
      Program.run ⟨64, 200⟩ false
          ⟨["def f():".toList, "    return 'a'".toList, "print(type(f()))".toList]⟩ =
        .ok "<class 'str'>".toList := by
  constructor <;> decide +kernel

end DryRun
