import DryRun.Proofs.Evaluation.Operands
import DryRun.Proofs.Evaluation.Plain
import DryRun.Proofs.Function.Header
import DryRun.Proofs.Program.Steps
import DryRun.Proofs.Source.Columns

/-!
# Augmented assignments

The line `x op= e` applies an operator to two values, and the line `x = x op (e)` has arithmetic do
so. For a variable with an integer and a plain expression with a number they do the same
(`stepLine_augmented`), if arithmetic reads the name of the variable. Where it stops inside the
name, the second line makes the variable a text (`stepLine_assigned_unread`).

1. The two lines, and the statements that they are.
2. The right-hand side of the second, for names that arithmetic reads and for others.
-/

namespace DryRun

open Unicode Expression Arithmetic Evaluation

namespace Program

/-! ## The two lines -/

/-- The line of an augmented assignment. -/
def augmentedLine (name : Text) (op : Connective) (expression : Text) : Text :=
  name ++ ' ' :: op.sign :: '=' :: ' ' :: expression

/-- A variable and an expression in parentheses, with an operator between them. -/
def joinedTo (name : Text) (op : Connective) (expression : Text) : Text :=
  name ++ ' ' :: op.sign :: ' ' :: parenthesized expression

/-- The line of an assignment. -/
def assignedLine (name expression : Text) : Text := name ++ ' ' :: '=' :: ' ' :: expression

theorem trimStart_cons {c : Char} (h : isBlank c = false) (rest : Text) :
    Text.trimStart (c :: rest) = c :: rest :=
  List.dropWhile_cons_of_neg (Bool.eq_false_iff.1 h)

theorem trimStart_space_cons {c : Char} (h : isBlank c = false) (rest : Text) :
    Text.trimStart (' ' :: c :: rest) = c :: rest :=
  trimStart_cons h rest

theorem trimStart_space {text : Text} (h : Text.Bare text) :
    Text.trimStart (' ' :: text) = text := by
  obtain ⟨c, hc, hblank⟩ := h.head
  obtain ⟨rest, rfl⟩ := List.head?_eq_some_iff.1 hc
  exact trimStart_space_cons hblank rest

theorem after?_cons_eq_none {c : Char} (h : c ≠ '(') (rest : Text) :
    Text.after? "(" (c :: rest) = none := by
  simp [Text.after?, List.isPrefixOf?, Ne.symm h]

theorem bare_of_identifier {name : Text} (hname : identifier name = some (name, [])) :
    Text.Bare name := by
  refine .of_any_eq_false ?_ (List.any_eq_false.2 fun c hc => Bool.eq_false_iff.1 ?_)
  · obtain ⟨first, others, rfl, -⟩ := exists_of_identifier hname
    exact List.cons_ne_nil first others
  · exact Text.isBlank_eq_false_of_isWord (isWord_of_mem_identifier hname hc)

section Lines

variable {name : Text} (hname : identifier name = some (name, []))

include hname

/-- A word at the beginning of a line that begins with a name is the name, or a part of it. -/
theorem exists_of_word {beginning : String} (hspace : ' ' ∉ beginning.toList) {rest behind : Text}
    {found : Unit} (h : Pattern.word beginning (name ++ ' ' :: rest) = some (found, behind)) :
    behind = ' ' :: rest ∨ ∃ c others, behind = c :: others ∧ isWord c = true := by
  -- the name ends inside the word, which holds no space, or the word ends inside the name
  rcases List.append_eq_append_iff.1 (Text.eq_append_of_word h) with
    ⟨part, hword, hrest⟩ | ⟨part, hname', hbehind⟩
  · cases part with
    | nil => exact .inl (by simpa using hrest.symm)
    | cons c part =>
      obtain ⟨rfl, -⟩ := List.cons.inj hrest
      exact absurd (hword ▸ List.mem_append_right name List.mem_cons_self) hspace
  · cases part with
    | nil => exact .inl (by simpa using hbehind)
    | cons c part =>
      refine .inr ⟨c, _, hbehind, isWord_of_mem_identifier hname ?_⟩
      rw [hname']
      exact List.mem_append_right _ List.mem_cons_self

/-- A name with a blank and a sign behind it begins no definition. -/
theorem header?_eq_none {c : Char} (hblank : isBlank c = false) (hstart : isNameStart c = false)
    {rest : Text} (hbare : Text.Bare (name ++ ' ' :: c :: rest)) :
    Function.header? (name ++ ' ' :: c :: rest) = none := by
  have hnone : Function.header (name ++ ' ' :: c :: rest) = none := by
    unfold Function.header
    cases hword : Pattern.word "def" (name ++ ' ' :: c :: rest) with
    | none => exact Pattern.bind_of_none hword _
    | some parts =>
      obtain ⟨found, behind⟩ := parts
      rw [Pattern.bind_of_some hword]
      rcases exists_of_word hname (by decide) hword with rfl | ⟨d, others, rfl, hd⟩
      · have hidentifier : identifier (c :: rest) = none :=
          Pattern.bind_of_none (if_neg (Bool.eq_false_iff.1 hstart)) _
        have hblanks : Pattern.blanks1 (' ' :: c :: rest) = some ((), c :: rest) :=
          Pattern.blanks1_space hblank
        rw [Pattern.bind_of_some hblanks]
        exact Pattern.bind_of_none hidentifier _
      · have hblanks : Pattern.blanks1 (d :: others) = none :=
          Pattern.bind_of_none (if_neg (Bool.eq_false_iff.1 (Text.isBlank_eq_false_of_isWord hd))) _
        exact Pattern.bind_of_none hblanks _
  rw [Function.header?, hbare.trim_eq, hnone]
  rfl

/-- Nor does it print. -/
theorem printed?_eq_none {c : Char} (hblank : isBlank c = false) (hopening : c ≠ '(')
    (rest : Text) : printed? (name ++ ' ' :: c :: rest) = none := by
  cases hword : Pattern.word "print" (name ++ ' ' :: c :: rest) with
  | none => simp [printed?, hword]
  | some parts =>
    obtain ⟨found, behind⟩ := parts
    have hafter : Text.after? "(" (Text.trimStart behind) = none := by
      rcases exists_of_word hname (by decide) hword with rfl | ⟨d, others, rfl, hd⟩
      · rw [trimStart_space_cons hblank, after?_cons_eq_none hopening]
      · have hne : d ≠ '(' := by
          rintro rfl
          revert hd
          decide
        rw [trimStart_cons (Text.isBlank_eq_false_of_isWord hd), after?_cons_eq_none hne]
    simp [printed?, hword, hafter]

end Lines

/-! ## Their statements -/

section Execution

variable {evaluate : Environment → Text → Except EvalError Value} {state : State}
  {expression : Text} {value : Value} (hvalue : evaluate state.env expression = .ok value)

include hvalue

theorem execute_augment {name : Text} {op : Operator} {left result : Value}
    (hfound : state.env.find? name = some left) (hresult : op.apply left value = .ok result) :
    execute evaluate { state with definition := none } (.augment name op expression) =
      .ok { env := state.env.bind name result, printed := state.printed, definition := none } := by
  have haugment : augment state.env name op value = .ok (state.env.bind name result) := by
    rw [augment, hfound]
    dsimp only
    rw [hresult]
  rw [execute]
  dsimp only
  rw [hvalue]
  show augment state.env name op value >>= _ = _
  rw [haugment]
  rfl

theorem execute_assign (name : Text) :
    execute evaluate { state with definition := none } (.assign name expression) =
      .ok { env := state.env.bind name value, printed := state.printed, definition := none } := by
  rw [execute]
  dsimp only
  rw [hvalue]
  rfl

end Execution

theorem stepLine_of_bare {line : Text} (hbare : Text.Bare line) (hcomment : '#' ∉ line)
    (hheader : Function.header? line = none)
    (evaluate : Environment → Text → Except EvalError Value) (state : State) :
    stepLine evaluate state line =
      execute evaluate { state with definition := none } (.ofLine line) := by
  have hstatement : statementOf line = line := by
    rw [statementOf, stripComment_of_not_mem hcomment, hbare.trim_eq]
  have hblank := hbare.any_head?_append []
  rw [List.append_nil] at hblank
  have hmargin : Text.indentation line = 0 := by
    rw [Text.indentation, Text.takeWhile_of_any_head? hblank]
    rfl
  have hempty : line.isEmpty = false := by
    rw [List.isEmpty_eq_false_iff]
    exact hbare.ne_nil
  unfold stepLine
  dsimp only
  rw [hstatement, hmargin, state.passes_zero, hempty, hheader]
  rfl

section Statements

variable {name expression : Text} (hname : identifier name = some (name, []))
  (hbare : Text.Bare expression) (hbreak : '\n' ∉ expression)

include hname hbare hbreak

theorem ofLine_augmentedLine (op : Connective) :
    Statement.ofLine (augmentedLine name op expression) =
      .augment name op.operator expression := by
  have hsign : isBlank op.sign = false ∧ op.sign ≠ '(' := by cases op <;> decide
  have hprinted : printed? (augmentedLine name op expression) = none :=
    printed?_eq_none hname hsign.1 hsign.2 _
  have haugmented : augmented? (augmentedLine name op expression) =
      some (name, op.operator, expression) := by
    have hidentifier : identifier (augmentedLine name op expression) =
        some (name, ' ' :: op.sign :: '=' :: ' ' :: expression) :=
      identifier_append hname (by decide) _
    have hop : Operator.ofChar? op.sign = some op.operator := by cases op <;> rfl
    simp [augmented?, hidentifier, trimStart_space_cons hsign.1, hop, trimStart_space hbare,
      hbare.ne_nil, hbreak]
  simp [Statement.ofLine, hprinted, haugmented]

theorem ofLine_assignedLine :
    Statement.ofLine (assignedLine name expression) = .assign name expression := by
  have hprinted : printed? (assignedLine name expression) = none :=
    printed?_eq_none hname (by decide) (by decide) _
  have hidentifier : identifier (assignedLine name expression) =
      some (name, ' ' :: '=' :: ' ' :: expression) :=
    identifier_append hname (by decide) _
  have hequals : Text.trimStart (' ' :: '=' :: ' ' :: expression) = '=' :: ' ' :: expression :=
    trimStart_space_cons (by decide) _
  have haugmented : augmented? (assignedLine name expression) = none := by
    simp [augmented?, hidentifier, hequals]
  have hassignment : assignment? (assignedLine name expression) = some (name, expression) := by
    have hvalue : Text.after? "=" ('=' :: ' ' :: expression) = some (' ' :: expression) := rfl
    simp [assignment?, hidentifier, hequals, hvalue, trimStart_space hbare, hbreak]
  simp [Statement.ofLine, hprinted, haugmented, hassignment]

variable (hcomment : '#' ∉ expression)
  (evaluate : Environment → Text → Except EvalError Value) (state : State)

include hcomment

theorem stepLine_augmentedLine (op : Connective) :
    stepLine evaluate state (augmentedLine name op expression) =
      execute evaluate { state with definition := none }
        (.augment name op.operator expression) := by
  have hline : Text.Bare (augmentedLine name op expression) :=
    (bare_of_identifier hname).append [' ', op.sign, '=', ' '] hbare
  have hsign : isBlank op.sign = false ∧ isNameStart op.sign = false ∧ '#' ≠ op.sign := by
    cases op <;> decide
  have hmark : '#' ∉ augmentedLine name op expression := by
    simp [augmentedLine, not_mem_of_identifier hname (c := '#') (by decide),
      hcomment, hsign.2.2]
  have hheader := header?_eq_none hname hsign.1 hsign.2.1 hline
  rw [stepLine_of_bare hline hmark hheader, ofLine_augmentedLine hname hbare hbreak]

theorem stepLine_assignedLine :
    stepLine evaluate state (assignedLine name expression) =
      execute evaluate { state with definition := none } (.assign name expression) := by
  have hline : Text.Bare (assignedLine name expression) :=
    (bare_of_identifier hname).append [' ', '=', ' '] hbare
  have hmark : '#' ∉ assignedLine name expression := by
    simp [assignedLine, not_mem_of_identifier hname (c := '#') (by decide), hcomment]
  have hheader := header?_eq_none hname (by decide) (by decide) hline
  rw [stepLine_of_bare hline hmark hheader, ofLine_assignedLine hname hbare hbreak]

end Statements

end Program

/-! ## The right-hand side -/

section Joined

variable {name : Text} (hidentifier : identifier name = some (name, [])) (op : Connective)

include hidentifier

theorem bare_joinedTo (expression : Text) : Text.Bare (Program.joinedTo name op expression) := by
  have hgroup : Text.Bare (parenthesized expression) := .enclosed (by decide) (by decide) _
  exact (Program.bare_of_identifier hidentifier).append [' ', op.sign, ' '] hgroup

theorem not_mem_joinedTo {c : Char} (hword : isWord c = false)
    (hsign : c ∉ "+-* ()".toList) {expression : Text} (h : c ∉ expression) :
    c ∉ Program.joinedTo name op expression := by
  have hop : op.sign ∈ "+-* ()".toList := by cases op <;> decide
  have hne : ∀ {d : Char}, d ∈ "+-* ()".toList → c ≠ d := by
    rintro d hd rfl
    exact hsign hd
  simp [Program.joinedTo, parenthesized, not_mem_of_identifier hidentifier hword, h,
    hne hop, hne (d := ' ') (by decide), hne (d := '(') (by decide), hne (d := ')') (by decide)]

theorem ofText_joinedTo (functions : Functions) (expression : Text) :
    Form.ofText functions (Program.joinedTo name op expression) = .arithmetic := by
  have hsign : (op.sign != '(') = true := by cases op <;> decide
  have hmem : op.sign ∈ (Program.joinedTo name op expression).takeWhile (· != '(') := by
    have hparen : ∀ c ∈ name, (c != '(') = true := by
      rintro c hc
      rw [bne_iff_ne]
      rintro rfl
      exact not_mem_of_identifier hidentifier (by decide) hc
    rw [Program.joinedTo, List.takeWhile_append_of_pos hparen,
      List.takeWhile_cons_of_pos (by decide), List.takeWhile_cons_of_pos (by exact hsign)]
    simp
  have hany : (Program.joinedTo name op expression).any isOperatorSign = true := by
    refine List.any_eq_true.2 ⟨op.sign, by simp [Program.joinedTo], ?_⟩
    cases op <;> decide
  obtain ⟨first, others, rfl, hfirst, hothers⟩ := exists_of_identifier hidentifier
  have hcall := splitCall?_cons_eq_none_of_sign op hmem
  cases others with
  | nil =>
    exact ofText_eq_arithmetic_of_isNameStart functions hfirst rfl List.mem_cons_self hany hcall
  | cons d others =>
    have hd := hothers d List.mem_cons_self
    exact ofText_eq_arithmetic_of_isNameStart functions hfirst
      (Quote.ofChar?_eq_none_of (by decide) (by decide) hd) (by simp) hany hcall

end Joined

/-! ## Names that arithmetic reads -/

section Read

variable {name expression : Text} {tokens : List Token} (hname : IsName name) (op : Connective)
  (htokens : Token.list? expression = some tokens)

include hname htokens

theorem list?_joinedTo :
    Token.list? (Program.joinedTo name op expression) =
      some (.name name :: .operator op.operator :: .opening :: (tokens ++ [.closing])) := by
  have hspace : Text.isBlankText [' '] = true := rfl
  exact list?_joined op (list?_name hname) (list?_grouped htokens) hspace hspace

theorem evaluate_joinedTo (hidentifier : identifier name = some (name, []))
    {functions : Functions} {room calls : Nat} {env : Environment} {n : Int} {value result : Value}
    (hfound : env.find? name = some (.int n))
    (h : Denotes (operandScope functions (room + 1) calls env) room .sum tokens value)
    (hresult : op.operator.apply (.int n) value = .ok result) :
    evaluate functions (room + 2) calls env (Program.joinedTo name op expression) =
      .ok result := by
  have hleft : Denotes (operandScope functions (room + 1) calls env) (room + 1) .operand
      [.name name] (.int n) := .name (room + 1) hfound
  have hjoined := Denotes.joined (hleft.at_level _) (h.grouped.at_level _) hresult
  rw [evaluate_of_tokens (bare_joinedTo hidentifier op expression)
    (ofText_joinedTo hidentifier op _ _) (list?_joinedTo hname op htokens)]
  exact congrArg (orText _) (run_eq_ok_iff.2 hjoined.to_sum)

end Read

/-! ## Names that it does not read -/

theorem Token.inName_of_beginsName {c : Char} (h : beginsName c = true) : inName c = true := by
  rw [beginsName, Bool.or_eq_true] at h
  rw [inName, Bool.or_eq_true]
  exact h.imp_left isAlphanumeric_of_isAlphabetic

/-- A word may hold characters that no token begins with. -/
theorem Arithmetic.read?_cons_eq_none {c : Char} (hword : isWord c = true)
    (hunread : Token.inName c = false) (rest : Text) : Token.read? (c :: rest) = none := by
  have hne : ∀ {d : Char}, isWord d = false → c ≠ d := by
    rintro d hd rfl
    rw [hword] at hd
    cases hd
  have hdigit : c.isDigit = false := by
    rw [Bool.eq_false_iff]
    intro hdigit
    rw [Token.inName, isAlphanumeric_of_isAlphanum (isAlphanum_of_isDigit hdigit)] at hunread
    cases hunread
  have hbegins : Token.beginsName c = false := by
    rw [Bool.eq_false_iff]
    intro hbegins
    rw [Token.inName_of_beginsName hbegins] at hunread
    cases hunread
  have hop : Operator.ofChar? c = none := by
    cases hop : Operator.ofChar? c with
    | none => rfl
    | some op =>
      refine absurd (Operator.eq_sign_of_ofChar? hop) (hne ?_)
      cases op <;> decide
  have hquote : Quote.ofChar? c = none := Quote.ofChar?_eq_none_of (by decide) (by decide) hword
  simp [Token.read?, hdigit, hquote, hbegins, hop, hne (d := '.') (by decide),
    hne (d := '(') (by decide), hne (d := ')') (by decide)]

section Unread

variable {name : Text} (hidentifier : identifier name = some (name, [])) {c : Char} (hc : c ∈ name)
  (hunread : Token.inName c = false)

include hidentifier hc hunread

/-- Arithmetic stops inside a name that it does not take all of, where no token begins. -/
theorem list?_unread (rest : Text) : Token.list? (name ++ rest) = none := by
  obtain ⟨d, others, hd⟩ : ∃ d others, name.dropWhile Token.inName = d :: others := by
    refine List.exists_cons_of_ne_nil fun hnil => ?_
    rw [List.dropWhile_eq_nil_iff.1 hnil c hc] at hunread
    cases hunread
  have hmark : Token.inName d = false := by
    have hhead := Text.any_head?_dropWhile Token.inName name
    rwa [hd] at hhead
  have hword : isWord d = true := by
    have hmem : d ∈ name := (List.dropWhile_sublist _).mem (hd ▸ List.mem_cons_self)
    exact isWord_of_mem_identifier hidentifier hmem
  have hblank : isBlank d = false := Text.isBlank_eq_false_of_isWord hword
  have hbehind : Token.list? (d :: (others ++ rest)) = none :=
    list?_eq_none_of_read? hblank (List.cons_ne_nil _ _) (read?_cons_eq_none hword hmark _)
  have hopening : ((d :: (others ++ rest)).dropWhile (· == ' ')).head? ≠ some '(' := by
    have hspace : ¬ (d == ' ') = true := by
      rw [beq_iff_eq]
      rintro rfl
      cases hblank
    rw [List.dropWhile_cons, if_neg hspace, List.head?_cons]
    rintro ⟨⟩
    revert hword
    decide
  have hsplit : name ++ rest = name.takeWhile Token.inName ++ d :: (others ++ rest) := by
    rw [← List.cons_append, ← hd, ← List.append_assoc, List.takeWhile_append_dropWhile]
  have hhead : (d :: (others ++ rest)).head?.any Token.inName = false := hmark
  have hinside : ∀ c ∈ name.takeWhile Token.inName, Token.inName c = true :=
    fun _ h => List.mem_takeWhile_imp h
  have hread := nameOrCall?_of_head? hinside hhead hopening
  rw [← hsplit] at hread
  have hbare := (Program.bare_of_identifier hidentifier).any_head?_append rest
  obtain ⟨first, letters, rfl, hfirst, -⟩ := exists_of_identifier hidentifier
  rw [list?_of_read? hbare ((read?_cons_of_isNameStart hfirst _).trans hread), hbehind]
  rfl

theorem evaluate_joinedTo_unread (op : Connective) (expression : Text) (functions : Functions)
    (room calls : Nat) (env : Environment) :
    evaluate functions (room + 1) calls env (Program.joinedTo name op expression) =
      .ok (.str (Program.joinedTo name op expression)) := by
  have hform := ofText_joinedTo hidentifier op functions expression
  have htrim := (bare_joinedTo hidentifier op expression).trim_eq
  have htokens : Token.list? (Program.joinedTo name op expression) = none :=
    list?_unread hidentifier hc hunread _
  rw [evaluate_arithmetic (by rw [htrim, hform]), htrim, Arithmetic.evaluate, htokens]
  rfl

/-- The assignment that reads such a name makes the variable a text. -/
theorem stepLine_assigned_unread (op : Connective) {expression : Text} (hbreak : '\n' ∉ expression)
    (hcomment : '#' ∉ expression) (functions : Functions) (room calls : Nat)
    (state : Program.State) :
    Program.stepLine (evaluate functions (room + 1) calls) state
        (Program.assignedLine name (Program.joinedTo name op expression)) =
      .ok { env := state.env.bind name (.str (Program.joinedTo name op expression))
            printed := state.printed, definition := none } := by
  have hvalue := evaluate_joinedTo_unread hidentifier hc hunread op expression functions room calls
    state.env
  rw [Program.stepLine_assignedLine hidentifier (bare_joinedTo hidentifier op expression)
    (not_mem_joinedTo hidentifier op (by decide) (by decide) hbreak)
    (not_mem_joinedTo hidentifier op (by decide) (by decide) hcomment)]
  exact Program.execute_assign hvalue name

end Unread

theorem apply_number (op : Connective) (n : Int) {value : Value} (h : value.IsNumber) :
    ∃ result, op.operator.apply (.int n) value = .ok result := by
  cases value with
  | int m => cases op <;> exact ⟨_, rfl⟩
  | float x => cases op <;> exact ⟨_, rfl⟩
  | str | bool | none | list => cases h

/-- **Augmented assignments.** For a variable with an integer, under a name that arithmetic reads,
and a plain expression with a number for its value, the augmented assignment and the assignment that
has the operator between the variable and the expression in parentheses do the same: the variable
gets the result of the operator, and nothing is printed. Both have the levels that the parentheses
and what nests in them take. -/
theorem stepLine_augmented {functions : Functions} {levels calls : Nat} {state : Program.State}
    {name expression : Text} {tokens : List Token} {n : Int} {value : Value} (op : Connective)
    (hidentifier : identifier name = some (name, [])) (hname : IsName name)
    (hfound : state.env.find? name = some (.int n)) (hplain : PlainExpression expression tokens)
    (hlevels : nesting tokens + 2 ≤ levels) (hnumber : value.IsNumber)
    (hvalue : evaluate functions levels calls state.env expression = .ok value) :
    ∃ result, op.operator.apply (.int n) value = .ok result ∧
      Program.stepLine (evaluate functions levels calls) state
          (Program.augmentedLine name op expression) =
        .ok { env := state.env.bind name result, printed := state.printed, definition := none } ∧
      Program.stepLine (evaluate functions levels calls) state
          (Program.assignedLine name (Program.joinedTo name op expression)) =
        .ok { env := state.env.bind name result, printed := state.printed, definition := none } := by
  obtain ⟨result, hresult⟩ := apply_number op n hnumber
  obtain ⟨room, rfl⟩ : ∃ room, levels = room + 2 := ⟨levels - 2, by omega⟩
  have hroom : nesting tokens ≤ room := by omega
  have hdenotes : Denotes (operandScope functions (room + 1) calls state.env) room .sum tokens
      value := hplain.denotes hnumber hvalue (hroom.trans (Nat.le_succ room)) hroom rfl
  have hjoined := evaluate_joinedTo hname op hplain.list?_eq hidentifier hfound hdenotes hresult
  have hbreak : '\n' ∉ Program.joinedTo name op expression :=
    not_mem_joinedTo hidentifier op (by decide) (by decide) hplain.break_not_mem
  have hcomment : '#' ∉ Program.joinedTo name op expression :=
    not_mem_joinedTo hidentifier op (by decide) (by decide) hplain.comment_not_mem
  refine ⟨result, hresult, ?_, ?_⟩
  · rw [Program.stepLine_augmentedLine hidentifier hplain.bare hplain.break_not_mem
      hplain.comment_not_mem]
    exact Program.execute_augment hvalue hfound hresult
  · rw [Program.stepLine_assignedLine hidentifier (bare_joinedTo hidentifier op expression) hbreak
      hcomment]
    exact Program.execute_assign hjoined name

/-- A numeral with an underscore, a variable, and a difference with a sign in it. -/
theorem stepLine_augmented_of_each_kind :
    let state : Program.State :=
      { env := [("x".toList, .int 3), ("y".toList, .int 2)], printed := [], definition := some 4 }
    let step := Program.stepLine (evaluate [] 3 0) state
    step "x *= 1_0".toList = step "x = x * (1_0)".toList ∧
      step "x += y".toList = step "x = x + (y)".toList ∧
      step "x -= 2 - -y".toList = step "x = x - (2 - -y)".toList := by
  intro state step
  have hx : IsName "x".toList := ⟨'x', [], rfl, by decide, by simp⟩
  have hy : IsName "y".toList := ⟨'y', [], rfl, by decide, by simp⟩
  have hten : IsNumeral "1_0".toList 10 := ⟨by decide, by simp, by decide⟩
  have hplain : PlainText "2 - -y".toList
      [.literal (.int 2), .operator .subtract, .operator .subtract, .name "y".toList] := by
    refine ⟨?list, ?sentence, by simpa [IsPlain] using hy⟩
    case list =>
      have htwo : Token.read? "2 - -y".toList = some (.literal (.int 2), " - -y".toList) :=
        read?_decimalDigits_append (n := 2) (by decide) (by decide)
      rw [list?_of_read? (by decide) htwo]
      show (Token.list? (' ' :: Connective.minus.sign :: ' ' :: Connective.minus.sign ::
        "y".toList)).map _ = _
      rw [list?_cons_of_isBlank (by decide), list?_sign, list?_cons_of_isBlank (by decide),
        list?_sign, list?_name hy]
      rfl
    case sentence =>
      have htwo : Phrase .product [.literal (.int 2)] := .product (.literal (.int 2))
      exact .joined .subtract htwo.sum (.product (.signed true (.name "y".toList)))
  have hdifference : PlainExpression "2 - -y".toList _ :=
    .sentence hplain ⟨.subtract, by simp⟩ (.enclosed (by decide) (by decide) " - -".toList)
      (by decide)
  have hvalue : evaluate [] 3 0 state.env "2 - -y".toList = .ok (.int 4) :=
    evaluate_eq_of_arithmetic (by rfl)
      (evaluate_eq_some_iff.2 ⟨_, hplain.list?_eq, run_eq_ok_iff.1 rfl⟩)
  have hnumber : ∀ n, Value.IsNumber (.int n) := fun _ => trivial
  have htenValue : evaluate [] 3 0 state.env "1_0".toList = .ok (.int 10) :=
    evaluate_of_literal (hten.ofText []) 2 0 state.env
  have hyValue : evaluate [] 3 0 state.env "y".toList = .ok (.int 2) :=
    evaluate_of_name (by rfl) 2 0 state.env
  refine ⟨?numeral, ?name, ?sentence⟩
  case numeral =>
    obtain ⟨_, -, haugmented, hassigned⟩ := stepLine_augmented .times (by decide) hx rfl
      (.numeral hten) (by decide) (hnumber 10) htenValue
    exact haugmented.trans hassigned.symm
  case name =>
    obtain ⟨_, -, haugmented, hassigned⟩ := stepLine_augmented .plus (by decide) hx rfl
      (.name hy) (by decide) (hnumber 2) hyValue
    exact haugmented.trans hassigned.symm
  case sentence =>
    obtain ⟨_, -, haugmented, hassigned⟩ := stepLine_augmented .minus (by decide) hx rfl
      hdifference (by decide) (hnumber 4) hvalue
    exact haugmented.trans hassigned.symm

/-- A name with a combining mark may be assigned to, but arithmetic does not read it: the assignment
makes the variable a text. -/
theorem marked_name_is_no_operand :
    let name := "x\u0301".toList
    let state : Program.State := { env := [(name, .int 1)], printed := [], definition := none }
    let step := Program.stepLine (evaluate [] 200 64) state
    step (name ++ " += 1".toList) =
        .ok { env := state.env.bind name (.int 2), printed := [], definition := none } ∧
      step (name ++ " = ".toList ++ name ++ " + (1)".toList) =
        .ok { env := state.env.bind name (.str (name ++ " + (1)".toList)), printed := []
              definition := none } ∧
      step (name ++ " += 1".toList) ≠ step (name ++ " = ".toList ++ name ++ " + (1)".toList) := by
  intro name state step
  have hname : identifier name = some (name, []) := by decide +kernel
  have hnumeral : IsNumeral "1".toList 1 := ⟨by decide, by simp, by decide⟩
  have hone : evaluate [] 200 64 state.env "1".toList = .ok (.int 1) :=
    evaluate_of_literal (hnumeral.ofText []) 199 64 state.env
  have haugmented : step (name ++ " += 1".toList) =
      .ok { env := state.env.bind name (.int 2), printed := [], definition := none } := by
    refine (Program.stepLine_augmentedLine hname hnumeral.bare (by decide) (by decide) _ state
      .plus).trans ?_
    exact Program.execute_augment hone rfl rfl
  have hassigned : step (name ++ " = ".toList ++ name ++ " + (1)".toList) =
      .ok { env := state.env.bind name (.str (name ++ " + (1)".toList)), printed := []
            definition := none } := by
    have hmark : '\u0301' ∈ name ∧ Token.inName '\u0301' = false := by decide +kernel
    have hline : '\n' ∉ "1".toList ∧ '#' ∉ "1".toList := by decide
    exact stepLine_assigned_unread hname hmark.1 hmark.2 .plus hline.1 hline.2 [] 199 64 state
  refine ⟨haugmented, hassigned, ?_⟩
  rw [haugmented, hassigned]
  rintro ⟨⟩

end DryRun
