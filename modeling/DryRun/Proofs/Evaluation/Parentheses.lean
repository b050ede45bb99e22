import DryRun.Proofs.Arithmetic.Groups
import DryRun.Proofs.Evaluation.Forms
import DryRun.Proofs.Number.Reading
import DryRun.Proofs.Text.Parts

/-!
# Parentheses around integers

What becomes of the value of an integer expression in parentheses (`evaluate_parenthesized`).
Arithmetic keeps it, in one more level. So does an integer with a sign, which is arithmetic only in
parentheses, where its numeral has a place in 64 bits. A text without operators is no arithmetic,
with parentheses around it or not: it stands for itself, or is the name of a variable.

1. The form of a text in parentheses.
2. Integer literals as numerals.
3. Values of arithmetic, and of numerals behind a sign.
-/

namespace DryRun

open Unicode Expression Arithmetic Evaluation

/-- A text in parentheses. -/
def parenthesized (text : Text) : Text := '(' :: (text ++ [')'])

theorem trim_parenthesized (text : Text) : Text.trim (parenthesized text) = parenthesized text :=
  (Text.Bare.enclosed (by decide) (by decide) text).trim_eq

/-! ## Forms -/

namespace Expression

theorem any_isOperatorSign_trim (text : Text) :
    (Text.trim text).any isOperatorSign = text.any isOperatorSign := by
  obtain ⟨before, behind, hbefore, hbehind, htext⟩ := Text.exists_blanks_trim text
  have hnone : ∀ {blanks : Text}, Text.isBlankText blanks = true →
      blanks.any isOperatorSign = false := by
    intro blanks hblanks
    rw [List.any_eq_false]
    intro c hc
    exact Text.forall_isBlank (p := fun c => ¬ isOperatorSign c = true) (by decide)
      (Text.isBlankText_iff.1 hblanks c hc)
  conv_rhs => rw [htext]
  rw [List.any_append, List.any_append, hnone hbefore, hnone hbehind, Bool.false_or, Bool.or_false]

theorem ofText_parenthesized (functions : Functions) (text : Text) :
    Form.ofText functions (parenthesized text) =
      if text.any isOperatorSign then .arithmetic else .name := by
  have hcall : splitCall? (parenthesized text) = none := by
    apply splitCall?_eq_none
    intro before rest hsplit
    exact .inl (eq_takeWhile_of_splitFirst? hsplit)
  have hinteger : integerLiteral? (parenthesized text) = none := rfl
  have hfloat : floatLiteral? (parenthesized text) = none := rfl
  have hconstant : constant? (parenthesized text) = none :=
    constant?_eq_none (c := '(') List.mem_cons_self (by decide)
  have hany : (parenthesized text).any isOperatorSign = text.any isOperatorSign := by
    show ('(' :: (text ++ [')'])).any isOperatorSign = _
    rw [List.any_cons, List.any_append]
    show (false || (text.any isOperatorSign || (false || false))) = _
    simp only [Bool.false_or, Bool.or_false]
  have hstring : stringLiteral? (parenthesized text) = none :=
    stringLiteral?_cons_eq_none (by decide) _
  have htemplate : template? (parenthesized text) = none :=
    template?_cons_eq_none (by decide) _
  have hlist : listContents? (parenthesized text) = none :=
    listContents?_cons_eq_none (by decide) _
  simp [Form.ofText, hstring, htemplate, callOf?_eq_none hcall, hinteger, hfloat, hconstant, hlist,
    hany, show (parenthesized text).isEmpty = false from rfl]

/-! ## Integer literals -/

theorem isNumeral_of_readNatural? {numeral : Text} {size : Nat}
    (hhead : numeral.head?.any isDigit = true)
    (hsize : readNatural? (numeral.filter (· != '_')) = some size) : IsNumeral numeral size := by
  have hinside : ∀ c ∈ numeral, c.isDigit = true ∨ c = '_' := by
    intro c hc
    by_cases hline : c = '_'
    · exact .inr hline
    · exact .inl (isDigit_of_readNatural? hsize (List.mem_filter.2 ⟨hc, by simpa using hline⟩))
  cases numeral with
  | nil => cases hhead
  | cons c rest =>
    rcases hinside c List.mem_cons_self with hdigit | rfl
    · exact { head := hdigit, inside := hinside, value := hsize }
    · exact absurd hhead (by decide : isDigit '_' ≠ true)

/-- An integer literal is a numeral, behind a sign or not, and its value has a place in 64 bits. -/
theorem isNumeral_of_integerLiteral? {text : Text} {n : Int}
    (h : integerLiteral? text = some (.int n)) :
    inWord n = true ∧
      ((∃ size : Nat, IsNumeral text size ∧ n = size) ∨
        ∃ (numeral : Text) (size : Nat),
          text = '-' :: numeral ∧ IsNumeral numeral size ∧ n = -size) := by
  unfold integerLiteral? at h
  split at h
  rename_i negative numeral heq
  obtain ⟨hshape, h⟩ := Option.ite_none_right_eq_some.1 h
  have h := Option.some.inj h
  split at h
  · rename_i size hsize
    have hnumeral := isNumeral_of_readNatural? (Bool.and_eq_true_iff.1 hshape).1 hsize
    dsimp only at h
    generalize hsigned : (if negative = true then -(size : Int) else size) = signed at h
    split at h
    · rename_i hword
      cases h
      refine ⟨hword, ?_⟩
      split at heq
      · cases heq
        exact .inr ⟨_, size, rfl, hnumeral, hsigned.symm⟩
      · cases heq
        exact .inl ⟨size, hnumeral, hsigned.symm⟩
    · cases h
  · cases h

end Expression

/-! ## Values -/

section Values

variable {functions : Functions} {room calls : Nat} {env : Environment} {text : Text}

theorem evaluate_eq_of_arithmetic {value : Value}
    (hform : Form.ofText functions (Text.trim text) = .arithmetic)
    (hvalue : Arithmetic.evaluate (operandScope functions room calls env) (Text.trim text) =
      .ok (some value)) :
    evaluate functions (room + 1) calls env text = .ok value := by
  rw [evaluate_arithmetic hform, hvalue]
  rfl

/-- A value of arithmetic that is not the text itself is that of the machine. -/
theorem evaluate_of_evaluate_arithmetic {value : Value}
    (hform : Form.ofText functions (Text.trim text) = .arithmetic)
    (hvalue : value ≠ .str (Text.trim text))
    (h : evaluate functions (room + 1) calls env text = .ok value) :
    Arithmetic.evaluate (operandScope functions room calls env) (Text.trim text) =
      .ok (some value) := by
  rw [evaluate_arithmetic hform] at h
  cases hresult : Arithmetic.evaluate (operandScope functions room calls env) (Text.trim text) with
  | error cause =>
    rw [hresult] at h
    cases h
  | ok value? =>
    rw [hresult] at h
    cases value? with
    | none =>
      cases h
      exact absurd rfl hvalue
    | some value =>
      cases h
      rfl

/-- Calls do not tell in what room they are one of the operands. -/
theorem call_operandScope_of_le {left room' : Nat} (hleft : left ≤ room) (hroom : room ≤ room')
    (called : Text) :
    (operandScope functions room' calls env).call left called =
      (operandScope functions room calls env).call left called := by
  unfold operandScope operandCall
  dsimp only
  rw [Nat.min_eq_left hleft, Nat.min_eq_left (hleft.trans hroom)]

/-- Parentheses around arithmetic keep its value, in one more level. -/
theorem evaluate_parenthesized_arithmetic {value : Value}
    (hsign : text.any isOperatorSign = true)
    (h : Arithmetic.evaluate (operandScope functions room calls env) (Text.trim text) =
      .ok (some value)) :
    evaluate functions (room + 2) calls env (parenthesized text) = .ok value := by
  apply evaluate_eq_of_arithmetic
  · rw [trim_parenthesized, ofText_parenthesized, if_pos hsign]
  · rw [trim_parenthesized]
    exact evaluate_grouped h rfl (fun _ => rfl) fun room' hroom' called =>
      call_operandScope_of_le hroom' (Nat.le_succ room) called

end Values

/-! ## Signed integers -/

/-- The value of a numeral behind a minus sign. -/
theorem applySign_numeralValue {size : Nat} (h : inWord (-(size : Int)) = true) :
    Operator.applySign true (numeralValue size) =
      .ok (if inWord size then .int (-size) else .float (-floatOfDecimal false size 0)) := by
  unfold numeralValue
  split
  · simp [Operator.applySign, h]
  · rfl

theorem evaluate_signed {scope : Scope} {room size : Nat} {numeral : Text}
    (hnumeral : IsNumeral numeral size) (hword : inWord (-(size : Int)) = true)
    (hroom : scope.room = room + 1) :
    Arithmetic.evaluate scope ('-' :: numeral) =
      .ok (some (if inWord size then .int (-size) else .float (-floatOfDecimal false size 0))) := by
  have hblank : numeral.head?.any isBlank = false := by
    have hhead := hnumeral.head
    cases numeral with
    | nil => rfl
    | cons c rest =>
      exact forall_isDigit (p := fun c => isBlank c = false) (by decide) hhead
  have hread : Token.read? (numeral ++ []) = some (.literal (numeralValue size), []) :=
    hnumeral.read?_append rfl
  rw [List.append_nil] at hread
  have htokens : Token.list? ('-' :: numeral) =
      some [signToken true, .literal (numeralValue size)] := by
    show Token.list? (Connective.minus.sign :: numeral) = _
    rw [list?_of_read? rfl (read?_sign .minus numeral), list?_of_read? hblank hread, list?_nil]
    rfl
  refine evaluate_eq_some_iff.2 ⟨_, htokens, ?_⟩
  rw [hroom]
  exact .sum (.product (.signed (.literal room _) (applySign_numeralValue hword)))

/-! ## Integers in parentheses -/

theorem any_isOperatorSign_of_isNumeral {numeral : Text} {size : Nat}
    (h : IsNumeral numeral size) : numeral.any isOperatorSign = false := by
  rw [List.any_eq_false]
  intro c hc
  rcases h.inside c hc with hdigit | rfl
  · exact forall_isDigit (p := fun c => ¬ isOperatorSign c = true) (by decide) hdigit
  · decide

/-- **Parentheses around integers.** Arithmetic with an integer for its value keeps it in
parentheses, in one more level. An integer literal with a sign keeps its value in three levels, for
the parentheses, the sign and the numeral, as long as the numeral has a place in 64 bits without
the sign; otherwise it becomes a float. A literal without a sign and a variable have no operator,
so that in parentheses they are no arithmetic: the text is the name of a variable or has itself as
its value. -/
theorem evaluate_parenthesized {functions : Functions} {nesting calls : Nat} {env : Environment}
    {text : Text} {n : Int} (h : evaluate functions nesting calls env text = .ok (.int n)) :
    (Form.ofText functions (Text.trim text) = .arithmetic →
      evaluate functions (nesting + 1) calls env (parenthesized text) = .ok (.int n)) ∧
    (Form.ofText functions (Text.trim text) = .literal (.int n) ∧ '-' ∈ text → ∀ room,
      evaluate functions (room + 3) calls env (parenthesized text) =
        .ok (if inWord (-n) then .int n else .float (-floatOfDecimal false (-n).toNat 0))) ∧
    (Form.ofText functions (Text.trim text) = .literal (.int n) ∧ '-' ∉ text ∨
        Form.ofText functions (Text.trim text) = .name → ∀ room,
      evaluate functions (room + 1) calls env (parenthesized text) =
        .ok ((env.find? (parenthesized text)).getD (.str (parenthesized text)))) := by
  have hplain : text.any isOperatorSign = false → ∀ room,
      evaluate functions (room + 1) calls env (parenthesized text) =
        .ok ((env.find? (parenthesized text)).getD (.str (parenthesized text))) := by
    intro hsign room
    have hform : Form.ofText functions (Text.trim (parenthesized text)) = .name := by
      rw [trim_parenthesized, ofText_parenthesized, if_neg (Bool.eq_false_iff.1 hsign)]
    rw [evaluate_of_name hform, trim_parenthesized]
  refine ⟨fun hform => ?arithmetic, fun ⟨hform, hminus⟩ room => ?signed, fun hform => ?plain⟩
  case arithmetic =>
    have hsign := any_isOperatorSign_of_arithmetic hform
    rw [any_isOperatorSign_trim] at hsign
    cases nesting with
    | zero =>
      rw [evaluate] at h
      cases h
    | succ room =>
      exact evaluate_parenthesized_arithmetic hsign
        (evaluate_of_evaluate_arithmetic hform (by simp) h)
  case signed =>
    -- the sign is part of the literal, but an operator between parentheses
    have hsign : text.any isOperatorSign = true := List.any_eq_true.2 ⟨'-', hminus, rfl⟩
    obtain ⟨hword, ⟨size, hnumeral, rfl⟩ | ⟨numeral, size, htrim, hnumeral, rfl⟩⟩ :=
      isNumeral_of_integerLiteral? (integerLiteral?_of_ofText hform)
    · rw [← any_isOperatorSign_trim, any_isOperatorSign_of_isNumeral hnumeral] at hsign
      cases hsign
    · have hroom : (operandScope functions (room + 1) calls env).room = room + 1 := rfl
      have hvalue := evaluate_signed hnumeral hword hroom
      rw [← htrim] at hvalue
      rw [evaluate_parenthesized_arithmetic hsign hvalue, Int.neg_neg, Int.toNat_natCast]
  case plain =>
    apply hplain
    rw [← any_isOperatorSign_trim]
    rcases hform with ⟨hform, hminus⟩ | hform
    · obtain ⟨-, ⟨size, hnumeral, -⟩ | ⟨numeral, size, htrim, -⟩⟩ :=
        isNumeral_of_integerLiteral? (integerLiteral?_of_ofText hform)
      · exact any_isOperatorSign_of_isNumeral hnumeral
      · have hmem : '-' ∈ Text.trim text := htrim ▸ List.mem_cons_self
        exact absurd ((Text.isInfix_trim text).subset hmem) hminus
    · exact any_isOperatorSign_of_name hform

/-- A product, a signed integer and a variable. -/
theorem evaluate_parenthesized_in_each_form :
    let env : Environment := [("x".toList, .int 3)]
    (evaluate [] 1 0 env " x*2".toList = .ok (.int 6) ∧
      evaluate [] 2 0 env "( x*2)".toList = .ok (.int 6)) ∧
    (evaluate [] 1 0 env "-5".toList = .ok (.int (-5)) ∧
      evaluate [] 3 0 env "(-5)".toList = .ok (.int (-5))) ∧
    (evaluate [] 1 0 env "x".toList = .ok (.int 3) ∧
      evaluate [] 1 0 env "(x)".toList = .ok (.str "(x)".toList)) := by
  intro env
  have hproduct : evaluate [] 1 0 env " x*2".toList = .ok (.int 6) := by
    have htokens : Token.list? "x*2".toList =
        some [.name "x".toList, .operator .multiply, .literal (.int 2)] := by
      have hname : Token.read? "x*2".toList = some (.name "x".toList, "*2".toList) := rfl
      have htwo : Token.read? "2".toList = some (.literal (.int 2), []) :=
        read?_decimalDigits_append (n := 2) (by decide) (by decide)
      rw [list?_of_read? (by decide) hname]
      show (Token.list? (Connective.times.sign :: "2".toList)).map _ = _
      rw [list?_of_read? (by decide) (read?_sign .times _), list?_of_read? (by decide) htwo,
        list?_nil]
      rfl
    exact evaluate_eq_of_arithmetic (by rfl)
      (evaluate_eq_some_iff.2 ⟨_, htokens, run_eq_ok_iff.1 rfl⟩)
  have hsigned : evaluate [] 1 0 env "-5".toList = .ok (.int (-5)) :=
    evaluate_of_literal (by rfl) 0 0 env
  have hname : evaluate [] 1 0 env "x".toList = .ok (.int 3) := evaluate_of_name (by rfl) 0 0 env
  exact ⟨⟨hproduct, (evaluate_parenthesized hproduct).1 (by rfl)⟩,
    ⟨hsigned, (evaluate_parenthesized hsigned).2.1 ⟨by rfl, by decide⟩ 0⟩,
    ⟨hname, (evaluate_parenthesized hname).2.2 (.inr (by rfl)) 0⟩⟩

/-- A literal without a sign does not keep its value in parentheses. -/
theorem parentheses_change_literal :
    evaluate [] 200 64 [] "5".toList = .ok (.int 5) ∧
      evaluate [] 201 64 [] "(5)".toList = .ok (.str "(5)".toList) ∧
      evaluate [] 201 64 [] "(5)".toList ≠ evaluate [] 200 64 [] "5".toList := by
  have hliteral : evaluate [] 200 64 [] "5".toList = .ok (.int 5) :=
    evaluate_of_literal (ofText_integerText [] (n := 5) (by decide)) 199 64 []
  have hgrouped : evaluate [] 201 64 [] "(5)".toList = .ok (.str "(5)".toList) :=
    evaluate_of_name (by rfl) 200 64 []
  refine ⟨hliteral, hgrouped, ?_⟩
  rw [hliteral, hgrouped]
  exact nofun

end DryRun
