import DryRun.Proofs.Arithmetic.Plain

/-!
# Values of plain expressions

A numeral, a name and arithmetic without calls are read by different readers, but where one of them
has a number for its value, it has it as arithmetic too (`PlainExpression.denotes`), in the room
that its signs and parentheses nest in.
-/

namespace DryRun

open Unicode Expression Arithmetic Evaluation

/-- An integer or a float. -/
def Value.IsNumber : Value → Prop
  | .int _ | .float _ => True
  | _ => False

/-- The expressions of integer arithmetic without calls, with their tokens: a numeral, a name, or a
sentence with an operator on one line. -/
inductive PlainExpression : Text → List Token → Prop
  | numeral {numeral : Text} {size : Nat} (h : IsNumeral numeral size) :
      PlainExpression numeral [.literal (numeralValue size)]
  | name {name : Text} (h : IsName name) : PlainExpression name [.name name]
  | sentence {text : Text} {tokens : List Token} (h : PlainText text tokens)
      (hop : ∃ op, Token.operator op ∈ tokens) (hbare : Text.Bare text) (hline : '\n' ∉ text) :
      PlainExpression text tokens

/-! ## Where numbers come from -/

/-- What a text is whose value is a number. -/
inductive NumberSource (functions : Functions) (room calls : Nat) (env : Environment) (text : Text)
    (value : Value) : Prop
  | integer (h : integerLiteral? text = some value)
  | float (h : floatLiteral? text = some value)
  | call (h : (callOf? functions text).isSome = true)
  | arithmetic (hsign : text.any isOperatorSign = true)
      (h : Arithmetic.evaluate (operandScope functions room calls env) text = .ok (some value))
  | name (hsign : text.any isOperatorSign = false) (h : env.find? text = some value)

section Numbers

variable {functions : Functions} {room calls : Nat} {env : Environment} {text : Text}
  {value : Value}

theorem constant?_ne_number (hnumber : value.IsNumber) : constant? text ≠ some value := by
  unfold constant?
  split
  · rintro ⟨⟩
    cases hnumber
  · split
    · rintro ⟨⟩
      cases hnumber
    · split
      · rintro ⟨⟩
        cases hnumber
      · exact (Option.some_ne_none value).symm

/-- A number is the value of a literal, a call, arithmetic or a variable. -/
theorem numberSource_of_evaluate (hbare : Text.Bare text) (hnumber : value.IsNumber)
    (h : evaluate functions (room + 1) calls env text = .ok value) :
    NumberSource functions room calls env text value := by
  have htold := recognised_ofText functions text
  have htrim := hbare.trim_eq
  generalize hform : Form.ofText functions text = form at htold
  have hform' : Form.ofText functions (Text.trim text) = form := by rw [htrim, hform]
  cases htold with
  | string contents =>
    rw [evaluate_of_literal hform'] at h
    cases h
    cases hnumber
  | template htemplate =>
    rw [evaluate_of_template hform'] at h
    obtain ⟨shown, -, hvalue⟩ := exists_of_bind_eq_ok h
    cases hvalue
    cases hnumber
  | call hcall => exact .call (Option.isSome_iff_exists.2 ⟨_, hcall⟩)
  | integer hvalue =>
    rw [evaluate_of_literal hform'] at h
    cases h
    exact .integer hvalue
  | float hvalue =>
    rw [evaluate_of_literal hform'] at h
    cases h
    exact .float hvalue
  | constant hvalue =>
    rw [evaluate_of_literal hform'] at h
    cases h
    exact absurd hvalue (constant?_ne_number hnumber)
  | list hcontents =>
    rw [evaluate_of_list hform'] at h
    obtain ⟨items, -, hvalue⟩ := exists_of_bind_eq_ok h
    cases hvalue
    cases hnumber
  | arithmetic hsign =>
    have hvalue := evaluate_of_evaluate_arithmetic hform' (by rintro rfl; cases hnumber) h
    rw [htrim] at hvalue
    exact .arithmetic hsign hvalue
  | name hsign =>
    rw [evaluate_of_name hform', htrim] at h
    cases hfound : env.find? text with
    | none =>
      rw [hfound] at h
      cases h
      cases hnumber
    | some found =>
      rw [hfound] at h
      cases h
      exact .name hsign hfound

end Numbers

/-! ## The expressions as arithmetic -/

namespace PlainExpression

variable {text : Text} {tokens : List Token}

theorem list?_eq (h : PlainExpression text tokens) : Token.list? text = some tokens := by
  cases h with
  | numeral h => exact h.list?_eq
  | name h => exact list?_name h
  | sentence h => exact h.list?_eq

theorem bare (h : PlainExpression text tokens) : Text.Bare text := by
  cases h with
  | numeral h => exact h.bare
  | name h => exact h.bare
  | sentence h hop hbare => exact hbare

theorem call_not_mem (h : PlainExpression text tokens) (called : Text) :
    .call called ∉ tokens := by
  intro hmem
  cases h with
  | numeral h => cases List.mem_singleton.1 hmem
  | name h => cases List.mem_singleton.1 hmem
  | sentence h => exact h.plain _ hmem

theorem comment_not_mem (h : PlainExpression text tokens) : '#' ∉ text := by
  intro hmem
  cases h with
  | numeral h => exact h.ne_of_mem hmem (by decide) rfl
  | name h => exact h.not_mem (by decide) hmem
  | sentence h => exact h.mem_ne hmem (by decide) (by decide) rfl

theorem break_not_mem (h : PlainExpression text tokens) : '\n' ∉ text := by
  intro hmem
  cases h with
  | numeral h => exact h.ne_of_mem hmem (by decide) rfl
  | name h => exact h.not_mem (by decide) hmem
  | sentence h hop hbare hline => exact hline hmem

section Values

variable {functions : Functions} {room calls : Nat} {env : Environment} {value : Value}

/-- A name with a number for its value is that of a variable. -/
theorem find?_of_name {name : Text} (h : IsName name) (hnumber : value.IsNumber)
    (hvalue : evaluate functions (room + 1) calls env name = .ok value) :
    env.find? name = some value := by
  have hsigns : ∀ op : Operator, op.sign ∉ name :=
    fun op => h.not_mem (by cases op <;> decide)
  cases numberSource_of_evaluate h.bare hnumber hvalue with
  | integer hliteral =>
    obtain ⟨first, others, rfl, hfirst, -⟩ := h
    obtain ⟨numeral, rfl | htext, hhead, -⟩ := exists_of_integerLiteral? hliteral
    · have hhead : isDigit first = true := hhead
      rw [isDigit_eq_false_of_isNameStart hfirst] at hhead
      cases hhead
    · cases htext
      cases hfirst
  | float hfloat =>
    rw [floatLiteral?_eq_none (h.not_mem (by decide))] at hfloat
    cases hfloat
  | call hcall =>
    obtain ⟨form, hcall⟩ := Option.isSome_iff_exists.1 hcall
    obtain ⟨⟨called, arguments⟩, hsplit, -⟩ := Option.bind_eq_some_iff.1 hcall
    obtain ⟨gap, -, htext, -⟩ := exists_of_splitCall? hsplit
    refine absurd ?_ (h.not_mem (c := '(') (by decide))
    simp [htext]
  | arithmetic hsign =>
    obtain ⟨c, hc, hop⟩ := List.any_eq_true.1 hsign
    obtain ⟨op, hop⟩ := Option.isSome_iff_exists.1 hop
    rw [Operator.eq_sign_of_ofChar? hop] at hc
    exact absurd hc (hsigns op)
  | name hsign hfound => exact hfound

/-- A sentence with a number for its value has it as arithmetic, also where it is an integer literal
with a sign. -/
theorem denotes_sentence (h : PlainText text tokens) (hop : ∃ op, Token.operator op ∈ tokens)
    (hbare : Text.Bare text) (hnumber : value.IsNumber)
    (hvalue : evaluate functions (room + 1) calls env text = .ok value)
    (hroom : nesting tokens ≤ room) :
    Denotes (operandScope functions room calls env) room .sum tokens value := by
  cases numberSource_of_evaluate hbare hnumber hvalue with
  | integer hliteral =>
    obtain ⟨size, rfl, hsize, rfl⟩ := h.integerLiteral?_cases hop hliteral
    have hsign : Operator.applySign true (.int size) = .ok (.int (-size)) := by
      simp [Operator.applySign, inWord_neg hsize]
    have hnesting : 1 ≤ room := hroom
    obtain ⟨room, rfl⟩ : ∃ left, room = left + 1 := ⟨room - 1, by omega⟩
    exact .sum (.product (.signed (.literal room _) hsign))
  | float hfloat =>
    rw [floatLiteral?_eq_none fun hmem => h.mem_ne hmem (by decide) (by decide) rfl] at hfloat
    cases hfloat
  | call hcall =>
    rw [callOf?_eq_none h.splitCall?_eq_none] at hcall
    cases hcall
  | arithmetic hsign harithmetic =>
    obtain ⟨tokens', htokens, hdenotes⟩ := evaluate_eq_some_iff.1 harithmetic
    cases htokens.symm.trans h.list?_eq
    exact hdenotes
  | name hsign hfound =>
    obtain ⟨op, hop⟩ := hop
    have hmem := (Token.isInfix_sign_of_mem_list? h.list?_eq hop).subset List.mem_cons_self
    have hnone := List.any_eq_false.1 hsign _ hmem
    cases op <;> exact absurd rfl hnone

/-- A plain expression with a number for its value has it as arithmetic in any room that its signs
and parentheses nest in. -/
theorem denotes (h : PlainExpression text tokens) (hnumber : value.IsNumber)
    (hvalue : evaluate functions (room + 1) calls env text = .ok value) {room' : Nat}
    (hroom : nesting tokens ≤ room) (hroom' : nesting tokens ≤ room') {scope : Scope}
    (hnames : scope.valueOf? = env.find?) : Denotes scope room' .sum tokens value := by
  have hdenotes : Denotes (operandScope functions room calls env) room .sum tokens value := by
    cases h with
    | @numeral size h =>
      have hform : Form.ofText functions (Text.trim text) = .literal (numeralValue size) := by
        rw [h.bare.trim_eq, h.ofText]
      rw [evaluate_of_literal hform] at hvalue
      rw [← Except.ok.inj hvalue]
      exact .sum (.product (.literal room _))
    | name h => exact .sum (.product (.name room (find?_of_name h hnumber hvalue)))
    | sentence h hop hbare => exact denotes_sentence h hop hbare hnumber hvalue hroom
  exact hdenotes.of_nesting_le (fun name => by rw [hnames]; rfl) h.call_not_mem hroom'

end Values

end PlainExpression

end DryRun
