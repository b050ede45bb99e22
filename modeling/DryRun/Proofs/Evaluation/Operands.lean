import DryRun.Proofs.Evaluation.Parentheses
import DryRun.Proofs.Evaluation.Room
import DryRun.Proofs.Expression.Calls

/-!
# Operands by themselves and among operators

A call takes one more level of nesting as an operand than by itself, and but for that it is the same
in both places: a zero that is added to it, on either side, changes neither an integer value nor an
error (`evaluate_call_operand`). And a minus sign in front of an operand does what taking it from
zero does, as long as the result has a place in 64 bits (`evaluate_negated_operand`).

1. Operands with zeros and signs: their forms, their tokens and what becomes of those.
2. Calls.
3. Operands with integers for their values.
-/

namespace DryRun

open Unicode Expression Arithmetic Evaluation

/-! ## Forms -/

/-- Zero and a text, with an operator between them. -/
def zeroJoined (op : Connective) (text : Text) : Text := '0' :: ' ' :: op.sign :: ' ' :: text

/-- Zero behind a text that it is added to. -/
def plusZero (text : Text) : Text := text ++ " + 0".toList

theorem bare_zeroJoined (op : Connective) {text : Text} (h : Text.Bare text) :
    Text.Bare (zeroJoined op text) := by
  have hzero : Text.Bare ['0'] := .of_any_eq_false (by decide) (by decide)
  exact hzero.append [' ', op.sign, ' '] h

theorem bare_plusZero {text : Text} (h : Text.Bare text) : Text.Bare (plusZero text) := by
  have hzero : Text.Bare ['0'] := .of_any_eq_false (by decide) (by decide)
  exact h.append " + ".toList hzero

theorem bare_negated {text : Text} (h : Text.Bare text) : Text.Bare ('-' :: text) := by
  have hsign : Text.Bare ['-'] := .of_any_eq_false (by decide) (by decide)
  exact hsign.append [] h

/-- Nothing is called where a sign stands before the first parenthesis. -/
theorem Expression.splitCall?_cons_eq_none_of_sign {c : Char} {rest : Text} (op : Connective)
    (h : op.sign ∈ (c :: rest).takeWhile (· != '(')) : splitCall? (c :: rest) = none := by
  apply splitCall?_eq_none
  intro before behind hsplit
  rw [eq_takeWhile_of_splitFirst? hsplit]
  exact .inr ⟨op.sign, h, by cases op <;> decide⟩

theorem ofText_zeroJoined (functions : Functions) (op : Connective) (text : Text) :
    Form.ofText functions (zeroJoined op text) = .arithmetic := by
  apply ofText_eq_arithmetic
  · exact List.any_eq_true.2 ⟨op.sign, by simp [zeroJoined], by cases op <;> decide⟩
  · exact stringLiteral?_cons_eq_none (by decide) _
  · exact template?_cons_eq_none (by decide) _
  · apply splitCall?_cons_eq_none_of_sign op
    cases op <;> simp [Connective.sign]
  · exact integerLiteral?_eq_none_of_mem (d := ' ') List.mem_cons_self (by decide) (by decide)
  · rfl
  · exact listContents?_cons_eq_none (by decide) _

theorem ofText_neg_cons (functions : Functions) {c : Char} (hdigit : isDigit c = false)
    (hpoint : c ≠ '.') (rest : Text) : Form.ofText functions ('-' :: c :: rest) = .arithmetic := by
  apply ofText_eq_arithmetic
  · rfl
  · exact stringLiteral?_cons_eq_none (by decide) _
  · exact template?_cons_eq_none (by decide) _
  · exact splitCall?_cons_eq_none_of_sign .minus List.mem_cons_self
  · exact integerLiteral?_neg_eq_none hdigit
  · exact floatLiteral?_neg_eq_none (isPointed_cons_eq_false hdigit hpoint rest)
  · exact listContents?_cons_eq_none (by decide) _

/-- What begins like a name and holds a blank and an operator is arithmetic, if it is no call. -/
theorem ofText_eq_arithmetic_of_isNameStart (functions : Functions) {c d : Char} {rest : Text}
    (hc : isNameStart c = true) (hd : Quote.ofChar? d = none) (hblank : ' ' ∈ d :: rest)
    (hsign : (c :: d :: rest).any isOperatorSign = true)
    (hcall : splitCall? (c :: d :: rest) = none) :
    Form.ofText functions (c :: d :: rest) = .arithmetic := by
  have hne : ∀ {c' : Char}, isNameStart c' = false → c ≠ c' := ne_of_isNameStart hc
  have hquote : Quote.ofChar? c = none := Quote.ofChar?_eq_none_of (by decide) (by decide) hc
  have hpointed := isPointed_cons_eq_false (isDigit_eq_false_of_isNameStart hc)
    (hne (by decide)) (d :: rest)
  exact ofText_eq_arithmetic hsign (stringLiteral?_cons_eq_none hquote _)
    (template?_cons_cons_eq_none hd c rest) hcall
    (integerLiteral?_eq_none_of_mem hblank (by decide) (by decide))
    (floatLiteral?_cons_eq_none (hne (by decide)) hpointed)
    (listContents?_cons_eq_none (hne (by decide)) _)

/-! ## Tokens -/

namespace Arithmetic

theorem list?_zero : Token.list? "0".toList = some [.literal (.int 0)] := by
  have hzero : Token.read? "0".toList = some (.literal (.int 0), []) :=
    read?_decimalDigits_append (n := 0) (by decide) (by decide)
  rw [list?_of_read? (by decide) hzero, list?_nil]
  rfl

theorem list?_zeroJoined {text : Text} {tokens : List Token} (h : Token.list? text = some tokens)
    (op : Connective) :
    Token.list? (zeroJoined op text) =
      some (.literal (.int 0) :: .operator op.operator :: tokens) := by
  have hspace : Text.isBlankText [' '] = true := rfl
  exact list?_joined op list?_zero h hspace hspace

theorem list?_plusZero {text : Text} {tokens : List Token} (h : Token.list? text = some tokens) :
    Token.list? (plusZero text) = some (tokens ++ [.operator .add, .literal (.int 0)]) := by
  have hspace : Text.isBlankText [' '] = true := rfl
  exact list?_joined .plus h list?_zero hspace hspace

/-- A call that zero is added to has the room of all of it. -/
theorem run_call_plusZero (scope : Scope) (text : Text) :
    run scope [.call text, .operator .add, .literal (.int 0)] =
      (do Operator.add.apply (← scope.call scope.room text) (.int 0)) := by
  have hcall : step scope (.before []) (.call text) =
      (do settle (← scope.call scope.room text) []) := rfl
  rw [run, List.foldlM_cons, hcall]
  cases scope.call scope.room text with
  | error obstacle => rfl
  | ok value =>
    show finish (.after (.int 0) [.operand value .add]) = Operator.add.apply value (.int 0)
    rw [finish, closeSum]
    cases Operator.add.apply value (.int 0) <;> rfl

theorem run_zeroJoined_call (scope : Scope) (text : Text) :
    run scope [.literal (.int 0), .operator .add, .call text] =
      (do Operator.add.apply (.int 0) (← scope.call scope.room text)) := by
  have hcall : step scope (.before [.operand (.int 0) .add]) (.call text) =
      (do settle (← scope.call scope.room text) [.operand (.int 0) .add]) := rfl
  show [Token.call text].foldlM (step scope) (.before [.operand (.int 0) .add]) >>= finish = _
  rw [foldlM_single, hcall]
  cases scope.call scope.room text with
  | error obstacle => rfl
  | ok value =>
    show finish (.after value [.operand (.int 0) .add]) = Operator.add.apply (.int 0) value
    rw [finish, closeSum]
    cases Operator.add.apply (.int 0) value <;> rfl

end Arithmetic

/-! ## Outcomes -/

/-- The outcome of an expression whose arithmetic has the given one. -/
def orText (text : Text) : Except Obstacle Value → Except EvalError Value
  | .ok value => .ok value
  | .error .notArithmetic => .ok (.str text)
  | .error (.error cause) => .error cause

section Outcomes

variable {functions : Functions} {text : Text}

/-- The outcome of arithmetic whose tokens are known. -/
theorem evaluate_of_tokens {tokens : List Token} (hbare : Text.Bare text)
    (hform : Form.ofText functions text = .arithmetic) (htokens : Token.list? text = some tokens)
    (room calls : Nat) (env : Environment) :
    evaluate functions (room + 1) calls env text =
      orText text (run (operandScope functions room calls env) tokens) := by
  have htrim := hbare.trim_eq
  rw [evaluate_arithmetic (by rwa [htrim]), htrim, Arithmetic.evaluate, htokens]
  dsimp only
  cases run (operandScope functions room calls env) tokens with
  | ok value => rfl
  | error obstacle => cases obstacle <;> rfl

theorem call_operandScope (hknown : (callOf? functions text).isSome = true) {left room : Nat}
    (hroom : left ≤ room) (calls : Nat) (env : Environment) :
    (operandScope functions room calls env).call left text =
      (evaluate functions left calls env text).mapError .error := by
  unfold operandScope operandCall
  dsimp only
  rw [if_pos hknown, Nat.min_eq_left hroom]
  cases evaluate functions left calls env text <;> rfl

end Outcomes

/-! ## Calls -/

namespace Expression.KnownCall

variable {functions : Functions} {text name arguments : Text}
  (h : KnownCall functions text name arguments)

include h

theorem list?_eq : Token.list? text = some [.call text] := by
  have hread := h.read?_append []
  have hblank := h.bare.any_head?_append []
  rw [List.append_nil] at hread hblank
  rw [list?_of_read? hblank hread, list?_nil]
  rfl

theorem ofText_plusZero : Form.ofText functions (plusZero text) = .arithmetic := by
  have hcall : splitCall? (plusZero text) = none := by
    apply splitCall?_eq_none_of_getLast?
    rw [plusZero, List.getLast?_append]
    exact (by decide : some '0' ≠ some ')')
  obtain ⟨count, htext⟩ := h.spaces
  obtain ⟨first, others, rfl, hfirst, hothers⟩ := h.isName
  -- what stands behind the first character is part of the name, a space or the parenthesis
  obtain ⟨d, rest, hd, rfl⟩ : ∃ d rest, Quote.ofChar? d = none ∧ text = first :: d :: rest := by
    cases others with
    | cons d others =>
      have hd := hothers d List.mem_cons_self
      exact ⟨d, _, Quote.ofChar?_eq_none_of (by decide) (by decide) hd, htext⟩
    | nil =>
      cases count with
      | zero => exact ⟨'(', _, rfl, htext⟩
      | succ count => exact ⟨' ', _, rfl, htext⟩
  have hsign : (plusZero (first :: d :: rest)).any isOperatorSign = true :=
    List.any_eq_true.2 ⟨'+', by simp [plusZero], by decide⟩
  exact ofText_eq_arithmetic_of_isNameStart functions hfirst hd (by simp) hsign hcall

theorem evaluate_plusZero (nesting calls : Nat) (env : Environment) :
    evaluate functions (nesting + 1) calls env (plusZero text) =
      orText (plusZero text)
        (do
          let value ← (evaluate functions nesting calls env text).mapError .error
          Operator.add.apply value (.int 0)) := by
  have hcall := call_operandScope h.callOf?_isSome (le_refl nesting) calls env
  rw [evaluate_of_tokens (bare_plusZero h.bare) h.ofText_plusZero (list?_plusZero h.list?_eq),
    List.singleton_append, run_call_plusZero, ← hcall]
  rfl

theorem evaluate_zeroJoined (nesting calls : Nat) (env : Environment) :
    evaluate functions (nesting + 1) calls env (zeroJoined .plus text) =
      orText (zeroJoined .plus text)
        (do
          let value ← (evaluate functions nesting calls env text).mapError .error
          Operator.add.apply (.int 0) value) := by
  have hcall := call_operandScope h.callOf?_isSome (le_refl nesting) calls env
  rw [evaluate_of_tokens (bare_zeroJoined .plus h.bare) (ofText_zeroJoined functions .plus text)
    (list?_zeroJoined h.list?_eq .plus)]
  show orText _ (run _ [.literal (.int 0), .operator .add, .call text]) = _
  rw [run_zeroJoined_call, ← hcall]
  rfl

end Expression.KnownCall

theorem add_zero_int {v : Int} (h : inWord v = true) :
    Operator.add.apply (.int v) (.int 0) = .ok (.int v) ∧
      Operator.add.apply (.int 0) (.int v) = .ok (.int v) := by
  constructor <;> simp [Operator.apply, Operator.ofInts, h]

/-- **Calls as operands.** Zero is added to a call, behind it or in front of it: with one more level
of nesting, the sum has the integer that the call has by itself, or fails with its error. -/
theorem evaluate_call_operand {functions : Functions} {text name arguments : Text}
    (h : KnownCall functions text name arguments) (nesting calls : Nat) (env : Environment) :
    (∀ v, inWord v = true → evaluate functions nesting calls env text = .ok (.int v) →
      evaluate functions (nesting + 1) calls env (text ++ " + 0".toList) = .ok (.int v) ∧
      evaluate functions (nesting + 1) calls env ("0 + ".toList ++ text) = .ok (.int v)) ∧
    (∀ cause, evaluate functions nesting calls env text = .error cause →
      evaluate functions (nesting + 1) calls env (text ++ " + 0".toList) = .error cause ∧
      evaluate functions (nesting + 1) calls env ("0 + ".toList ++ text) = .error cause) := by
  have hbehind := h.evaluate_plusZero nesting calls env
  have hbefore := h.evaluate_zeroJoined nesting calls env
  constructor
  · intro v hv hvalue
    rw [hvalue] at hbehind hbefore
    exact ⟨hbehind.trans (congrArg (orText _) (add_zero_int hv).1),
      hbefore.trans (congrArg (orText _) (add_zero_int hv).2)⟩
  · intro cause hvalue
    rw [hvalue] at hbehind hbefore
    exact ⟨hbehind, hbefore⟩

/-- Values may not be compared in general, but an outcome may be compared with an integer. -/
instance decidableEqInteger (n : Int) :
    (outcome : Except EvalError Value) → Decidable (outcome = .ok (.int n))
  | .ok (.int m) =>
    decidable_of_iff (m = n) ⟨fun h => h ▸ rfl, fun h => Value.int.inj (Except.ok.inj h)⟩
  | .ok (.str _) | .ok (.float _) | .ok (.bool _) | .ok .none | .ok (.list _) | .error _ =>
    isFalse nofun

instance decidableEqFailure (cause : EvalError) :
    (outcome : Except EvalError Value) → Decidable (outcome = .error cause)
  | .ok _ => isFalse nofun
  | .error cause' => decidable_of_iff (cause' = cause) ⟨congrArg Except.error, Except.error.inj⟩

/-- A call with a space in front of its parenthesis and a parenthesis between its quotes, which
fails where no call may wait for another. -/
theorem evaluate_call_operand_defined :
    let functions := Function.ofSource (Source.ofText "def f(x):\n    return len(x)".toList)
    (evaluate functions 4 1 [] "f (')')".toList = .ok (.int 1) ∧
      evaluate functions 5 1 [] "f (')') + 0".toList = .ok (.int 1) ∧
      evaluate functions 5 1 [] "0 + f (')')".toList = .ok (.int 1)) ∧
    (evaluate functions 4 0 [] "f (')')".toList = .error .recursionLimit ∧
      evaluate functions 5 0 [] "f (')') + 0".toList = .error .recursionLimit ∧
      evaluate functions 5 0 [] "0 + f (')')".toList = .error .recursionLimit) := by
  intro functions
  have hcall : KnownCall functions "f (')')".toList "f".toList "')'".toList :=
    .of_source (by decide +kernel) (by decide +kernel) ⟨1, by decide⟩ (by decide)
  have hvalue : evaluate functions 4 1 [] "f (')')".toList = .ok (.int 1) := by decide +kernel
  have herror : evaluate functions 4 0 [] "f (')')".toList = .error .recursionLimit := by
    decide +kernel
  exact ⟨⟨hvalue, (evaluate_call_operand hcall 4 1 []).1 1 (by decide) hvalue⟩,
    ⟨herror, (evaluate_call_operand hcall 4 0 []).2 _ herror⟩⟩

/-! ## Operands with integers for their values -/

/-- The operands that have an integer for their value in a room for what is inside them: names,
calls, and arithmetic in parentheses. -/
inductive IsOperand (functions : Functions) (calls : Nat) (env : Environment) :
    Nat → Text → Int → Prop
  | name (room : Nat) {name : Text} {n : Int} (hname : IsName name)
      (hvalue : env.find? name = some (.int n)) : IsOperand functions calls env room name n
  | call {room : Nat} {text name arguments : Text} {n : Int}
      (h : KnownCall functions text name arguments)
      (hvalue : evaluate functions room calls env text = .ok (.int n)) :
      IsOperand functions calls env room text n
  | grouped {room : Nat} {text : Text} {n : Int}
      (hvalue : Arithmetic.evaluate (operandScope functions room calls env) text =
        .ok (some (.int n))) :
      IsOperand functions calls env (room + 1) (parenthesized text) n

namespace IsOperand

variable {functions : Functions} {calls room : Nat} {env : Environment} {text : Text} {n : Int}

theorem begins (h : IsOperand functions calls env room text n) :
    ∃ c rest, text = c :: rest ∧ (isNameStart c = true ∨ c = '(') := by
  cases h with
  | name room hname hvalue =>
    obtain ⟨first, others, rfl, hfirst, -⟩ := hname
    exact ⟨first, others, rfl, .inl hfirst⟩
  | call h hvalue =>
    obtain ⟨first, others, rfl, hfirst, -⟩ := h.isName
    obtain ⟨count, rfl⟩ := h.spaces
    exact ⟨first, _, rfl, .inl hfirst⟩
  | grouped hvalue => exact ⟨'(', _, rfl, .inr rfl⟩

theorem bare (h : IsOperand functions calls env room text n) : Text.Bare text := by
  cases h with
  | name room hname hvalue => exact IsName.bare hname
  | call h hvalue => exact h.bare
  | grouped hvalue => exact .enclosed (by decide) (by decide) _

/-- An operand has its value in every expression that leaves it the room. -/
theorem denotes (h : IsOperand functions calls env room text n) :
    ∃ tokens, Token.list? text = some tokens ∧ ∀ room', room ≤ room' →
      Denotes (operandScope functions room' calls env) room .operand tokens (.int n) := by
  cases h with
  | name room hname hvalue =>
    exact ⟨_, list?_name hname, fun room' _ => .name room hvalue⟩
  | call h hvalue =>
    refine ⟨_, h.list?_eq, fun room' hroom => .call ?_⟩
    rw [call_operandScope h.callOf?_isSome hroom, hvalue]
    rfl
  | grouped hvalue =>
    obtain ⟨tokens, htokens, hvalue⟩ := evaluate_eq_some_iff.1 hvalue
    refine ⟨_, list?_grouped htokens, fun room' hroom => .grouped ?_⟩
    exact hvalue.of_agree (fun _ => rfl) fun left hleft called =>
      call_operandScope_of_le hleft (Nat.le_of_succ_le hroom) called

theorem ofText_negated (h : IsOperand functions calls env room text n) :
    Form.ofText functions ('-' :: text) = .arithmetic := by
  obtain ⟨c, rest, rfl, hc | rfl⟩ := h.begins
  · exact ofText_neg_cons functions (isDigit_eq_false_of_isNameStart hc)
      (ne_of_isNameStart hc (by decide)) rest
  · exact ofText_neg_cons functions (by decide) (by decide) rest

theorem evaluate_negated (h : IsOperand functions calls env room text n) :
    evaluate functions (room + 2) calls env ('-' :: text) =
      .ok (if inWord (-n) then .int (-n) else .str ('-' :: text)) := by
  obtain ⟨tokens, htokens, hvalue⟩ := h.denotes
  have hvalue := hvalue (room + 1) (Nat.le_succ room)
  rw [evaluate_of_tokens (bare_negated h.bare) h.ofText_negated (list?_negated htokens)]
  by_cases hword : inWord (-n) = true
  · have hsign : Operator.applySign true (.int n) = .ok (.int (-n)) := by
      simp [Operator.applySign, hword]
    have hsigned := (hvalue.signed hsign).product.sum
    rw [if_pos hword, run_eq_ok_iff.2 hsigned]
    rfl
  · have hsign : Operator.applySign true (.int n) = .error .notArithmetic := by
      simp [Operator.applySign, hword]
    rw [if_neg hword]
    exact congrArg (orText _) (run_signed_of_error hvalue hsign)

theorem evaluate_subtracted (h : IsOperand functions calls env room text n) :
    evaluate functions (room + 1) calls env (zeroJoined .minus text) =
      .ok (Operator.ofInts (-n) (Float.ofInt 0 - Float.ofInt n)) := by
  obtain ⟨tokens, htokens, hvalue⟩ := h.denotes
  have hzero : Denotes (operandScope functions room calls env) room .product
      [.literal (.int 0)] (.int 0) := .product (.literal room (.int 0))
  have hresult : Operator.subtract.apply (.int 0) (.int n) =
      .ok (Operator.ofInts (-n) (Float.ofInt 0 - Float.ofInt n)) := by
    simp [Operator.apply]
  have hjoined : Denotes _ room .sum (.literal (.int 0) :: .operator .subtract :: tokens) _ :=
    .joined hzero.sum (hvalue room (le_refl room)).product hresult
  rw [evaluate_of_tokens (bare_zeroJoined .minus h.bare) (ofText_zeroJoined functions .minus text)
    (list?_zeroJoined htokens .minus)]
  exact congrArg (orText _) (run_eq_ok_iff.2 hjoined)

end IsOperand

theorem evaluate_eq_of_le {functions : Functions} {nesting nesting' calls : Nat}
    {env : Environment} {text : Text} {value : Value}
    (h : evaluate functions nesting calls env text = .ok value) (hle : nesting ≤ nesting') :
    evaluate functions nesting' calls env text = .ok value := by
  have hextends := evaluate_extends functions hle (le_refl calls) env text
  rw [h] at hextends
  exact hextends.eq_of_not_cut fun cause _ hcut => (by cases hcut)

/-- **Signs and subtraction.** An operand with an integer has the same value behind a minus sign and
taken from zero, as long as there is an integer of 64 bits for it. Otherwise the difference is a
float, but behind the sign the operand is no arithmetic and the text stands for itself. -/
theorem evaluate_negated_operand {functions : Functions} {room nesting calls : Nat}
    {env : Environment} {text : Text} {n : Int} (h : IsOperand functions calls env room text n)
    (hroom : room + 2 ≤ nesting) :
    (inWord (-n) = true →
      evaluate functions nesting calls env ('-' :: text) = .ok (.int (-n)) ∧
      evaluate functions nesting calls env ("0 - ".toList ++ text) = .ok (.int (-n))) ∧
    (inWord (-n) = false →
      evaluate functions nesting calls env ('-' :: text) = .ok (.str ('-' :: text)) ∧
      evaluate functions nesting calls env ("0 - ".toList ++ text) =
        .ok (.float (Float.ofInt 0 - Float.ofInt n))) := by
  have hnegated := evaluate_eq_of_le h.evaluate_negated hroom
  have hsubtracted := evaluate_eq_of_le h.evaluate_subtracted (Nat.le_of_succ_le hroom)
  rw [Operator.ofInts] at hsubtracted
  constructor
  · intro hword
    rw [if_pos hword] at hnegated hsubtracted
    exact ⟨hnegated, hsubtracted⟩
  · intro hword
    rw [if_neg (Bool.eq_false_iff.1 hword)] at hnegated hsubtracted
    exact ⟨hnegated, hsubtracted⟩

/-- A variable, a call with a parenthesis between its quotes, and a product. -/
theorem evaluate_negated_operand_of_each_kind :
    let env : Environment := [("x".toList, .int 5)]
    evaluate [] 2 0 env "-x".toList = evaluate [] 2 0 env "0 - x".toList ∧
    evaluate [] 4 0 env "-len('a)')".toList = evaluate [] 4 0 env "0 - len('a)')".toList ∧
    evaluate [] 3 0 env "-(x * 2)".toList = evaluate [] 3 0 env "0 - (x * 2)".toList := by
  intro env
  have hname : IsOperand [] 0 env 0 "x".toList 5 := .name 0 ⟨'x', [], rfl, by decide, by simp⟩ rfl
  have hcall : IsOperand [] 0 env 2 "len('a)')".toList 2 := by
    have hknown : KnownCall [] "len('a)')".toList "len".toList "'a)'".toList :=
      { split := by decide
        known := by decide
        begins := by decide
        spaces := ⟨0, by decide⟩
        closed := by decide }
    refine .call hknown ?_
    have hargument : evaluate [] 1 0 env "'a)'".toList = .ok (.str "a)".toList) :=
      evaluate_of_literal (by rfl) 0 0 env
    rw [@evaluate_of_lengthOf _ _ "'a)'".toList (by rfl), hargument]
    rfl
  have hgroup : IsOperand [] 0 env 1 "(x * 2)".toList 10 := by
    have htokens : Token.list? "x * 2".toList =
        some [.name "x".toList, .operator .multiply, .literal (.int 2)] := by
      have hx : Token.read? "x * 2".toList = some (.name "x".toList, " * 2".toList) := rfl
      have htwo : Token.read? "2".toList = some (.literal (.int 2), []) :=
        read?_decimalDigits_append (n := 2) (by decide) (by decide)
      rw [list?_of_read? (by decide) hx]
      show (Token.list? (' ' :: Connective.times.sign :: ' ' :: "2".toList)).map _ = _
      rw [list?_cons_of_isBlank (by decide), list?_sign, list?_cons_of_isBlank (by decide),
        list?_of_read? (by decide) htwo, list?_nil]
      rfl
    exact .grouped (evaluate_eq_some_iff.2 ⟨_, htokens, run_eq_ok_iff.1 rfl⟩)
  refine ⟨?_, ?_, ?_⟩
  · have h := (evaluate_negated_operand hname (le_refl 2)).1 (by decide)
    exact h.1.trans h.2.symm
  · have h := (evaluate_negated_operand hcall (le_refl 4)).1 (by decide)
    exact h.1.trans h.2.symm
  · have h := (evaluate_negated_operand hgroup (le_refl 3)).1 (by decide)
    exact h.1.trans h.2.symm

/-- The least integer stays what it is behind a sign. -/
theorem least_integer_is_not_negated :
    let env : Environment := [("x".toList, .int (-9223372036854775808))]
    evaluate [] 200 64 env "-x".toList = .ok (.str "-x".toList) ∧
      evaluate [] 200 64 env "0 - x".toList =
        .ok (.float (Float.ofInt 0 - Float.ofInt (-9223372036854775808))) ∧
      evaluate [] 200 64 env "-x".toList ≠ evaluate [] 200 64 env "0 - x".toList := by
  intro env
  have hx : IsOperand [] 64 env 198 "x".toList (-9223372036854775808) :=
    .name 198 ⟨'x', [], rfl, by decide, by simp⟩ rfl
  have hnegated : evaluate [] 200 64 env "-x".toList = .ok (.str "-x".toList) := hx.evaluate_negated
  have hsubtracted : evaluate [] 200 64 env "0 - x".toList = .ok (.float _) :=
    evaluate_eq_of_le hx.evaluate_subtracted (Nat.le_succ 199)
  refine ⟨hnegated, hsubtracted, ?_⟩
  rw [hnegated, hsubtracted]
  rintro ⟨⟩

end DryRun
