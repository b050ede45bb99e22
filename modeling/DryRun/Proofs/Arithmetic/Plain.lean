import DryRun.Proofs.Arithmetic.Denotation
import DryRun.Proofs.Arithmetic.Tokens
import DryRun.Proofs.Evaluation.Errors
import DryRun.Proofs.Evaluation.Parentheses
import DryRun.Proofs.Expression.Calls

/-!
# Plain arithmetic

Integer arithmetic without calls: each token is a numeral, a name, an operator or a parenthesis, and
stands in the text as it is spelled (`spelled_of_read?`). So the text is neither a string nor a
template, a call, a float or a list, and an integer literal only where it is a numeral behind a
minus sign (`PlainText.integerLiteral?_cases`). Its value takes the room that its signs and parentheses
nest in, and no more (`Denotes.of_deepest_le`).
-/

namespace DryRun

open Unicode

theorem Operator.sign_not_in_numeral (op : Operator) :
    ¬ (isDigit op.sign = true ∨ op.sign = '_') := by
  cases op <;> decide

theorem inWord_neg {size : Nat} (h : inWord size = true) : inWord (-(size : Int)) = true := by
  simp [inWord] at h ⊢
  omega

namespace Arithmetic

/-! ## Literals -/

namespace IsNumeral

variable {numeral : Text} {size : Nat} (h : IsNumeral numeral size)

include h

theorem all_inside : numeral.all (fun c => isDigit c || c == '_') = true := by
  rw [List.all_eq_true]
  intro c hc
  rcases h.inside c hc with hdigit | rfl
  · rw [isDigit_of_isDigit hdigit, Bool.true_or]
  · rfl

theorem any_head? : numeral.head?.any isDigit = true := by
  have hhead := h.head
  cases numeral with
  | nil => cases hhead
  | cons c rest => exact isDigit_of_isDigit hhead

theorem integerLiteral?_neg (hword : inWord (-(size : Int)) = true) :
    Expression.integerLiteral? ('-' :: numeral) = some (.int (-size)) := by
  simp [Expression.integerLiteral?, h.all_inside, h.any_head?, h.value, hword]

theorem integerLiteral?_eq : Expression.integerLiteral? numeral = some (numeralValue size) := by
  have hhead := h.any_head?
  unfold Expression.integerLiteral?
  split
  rename_i negative digits heq
  split at heq
  · cases hhead
  · cases heq
    simp [hhead, h.all_inside, h.value, numeralValue]

theorem ne_of_mem {c d : Char} (hc : c ∈ numeral) (hd : ¬ (d.isDigit = true ∨ d = '_')) :
    c ≠ d := by
  rintro rfl
  exact hd (h.inside c hc)

theorem ofText (functions : Functions) :
    Expression.Form.ofText functions numeral = .literal (numeralValue size) := by
  have hquote : ∀ c ∈ numeral, Quote.ofChar? c = none := by
    intro c hc
    rw [Quote.ofChar?, if_neg (h.ne_of_mem hc (by decide)), if_neg (h.ne_of_mem hc (by decide))]
  have hparen : ∀ c ∈ numeral, (c == '(') = false :=
    fun c hc => beq_eq_false_iff_ne.2 (h.ne_of_mem hc (by decide))
  have hcall : Expression.splitCall? numeral = none := by
    apply Expression.splitCall?_eq_none
    intro before rest hsplit
    rw [Expression.splitFirst?_eq_none hparen] at hsplit
    cases hsplit
  simp [Expression.Form.ofText, h.bare.ne_nil, Expression.stringLiteral?_eq_none hquote,
    Expression.template?_eq_none hquote, Expression.callOf?_eq_none hcall, h.integerLiteral?_eq]

end IsNumeral

/-! ## Plain tokens -/

/-- A token of integer arithmetic without calls. -/
def IsPlain : Token → Prop
  | .literal (.int _) | .operator _ | .opening | .closing => True
  | .name name => IsName name
  | .literal _ | .call _ => False

/-- A plain token as it is spelled. -/
inductive Spelled : Token → Text → Prop
  | numeral {numeral : Text} {size : Nat} (h : IsNumeral numeral size)
      (hword : inWord size = true) : Spelled (.literal (.int size)) numeral
  | name {name : Text} (h : IsName name) : Spelled (.name name) name
  | operator (op : Operator) : Spelled (.operator op) [op.sign]
  | opening : Spelled .opening ['(']
  | closing : Spelled .closing [')']

/-- The characters of plain tokens. -/
def InPlain (c : Char) : Prop := Token.inName c = true ∨ c ∈ "+-*/()".toList

instance (c : Char) : Decidable (InPlain c) := inferInstanceAs (Decidable (_ ∨ _))

theorem Spelled.inPlain {token : Token} {word : Text} (h : Spelled token word) :
    ∀ c ∈ word, InPlain c := by
  intro c hc
  cases h with
  | numeral h hword =>
    rcases h.inside c hc with hdigit | rfl
    · refine .inl ?_
      rw [Token.inName, isAlphanumeric_of_isAlphanum (isAlphanum_of_isDigit hdigit), Bool.true_or]
    · decide
  | name h => exact .inl (h.inName c hc)
  | operator op =>
    rw [List.mem_singleton.1 hc]
    cases op <;> decide
  | opening =>
    rw [List.mem_singleton.1 hc]
    decide
  | closing =>
    rw [List.mem_singleton.1 hc]
    decide

/-- An integer among the numbers is a numeral. -/
theorem exists_of_number? {text : Text} {n : Int} (h : Token.number? text = some (.int n)) :
    '.' ∉ text ∧ ∃ size : Nat, readNatural? (text.filter (· != '_')) = some size ∧
      inWord size = true ∧ n = size := by
  unfold Token.number? at h
  dsimp only at h
  split at h
  · obtain ⟨x, -, hx⟩ := Option.map_eq_some_iff.1 h
    cases hx
  · rename_i hpoint
    obtain ⟨size, hsize, hvalue⟩ := Option.map_eq_some_iff.1 h
    refine ⟨fun hmem => hpoint ?_, size, hsize, ?_⟩
    · rw [List.contains_iff_mem]
      exact List.mem_filter.2 ⟨hmem, by decide⟩
    · split at hvalue
      · rename_i hword
        cases hvalue
        exact ⟨hword, rfl⟩
      · cases hvalue

theorem spelled_of_number? {c : Char} {rest : Text} {value : Value}
    (hbegins : (c.isDigit || (c == '.' && rest.head?.any Char.isDigit)) = true)
    (h : Token.number? ((c :: rest).takeWhile Token.inNumber) = some value)
    (hplain : IsPlain (.literal value)) :
    Spelled (.literal value) ((c :: rest).takeWhile Token.inNumber) := by
  cases value with
  | int n =>
    obtain ⟨hpoint, size, hsize, hword, rfl⟩ := exists_of_number? h
    have hinside : Token.inNumber c = true := by
      rw [Token.inNumber]
      rcases Bool.or_eq_true_iff.1 hbegins with hdigit | hfirst
      · rw [hdigit, Bool.true_or, Bool.true_or]
      · rw [(Bool.and_eq_true_iff.1 hfirst).1, Bool.or_true, Bool.true_or]
    rw [List.takeWhile_cons_of_pos hinside] at hpoint hsize ⊢
    have hdigit : c.isDigit = true := by
      rcases Bool.or_eq_true_iff.1 hbegins with hdigit | hfirst
      · exact hdigit
      · rw [beq_iff_eq.1 (Bool.and_eq_true_iff.1 hfirst).1] at hpoint
        exact absurd List.mem_cons_self hpoint
    exact .numeral (Expression.isNumeral_of_readNatural? (isDigit_of_isDigit hdigit) hsize) hword
  | str | float | bool | none | list => cases hplain

/-- A plain token is read as it is spelled. -/
theorem spelled_of_read? {text behind : Text} {token : Token}
    (h : Token.read? text = some (token, behind)) (hplain : IsPlain token) :
    ∃ word, Spelled token word ∧ text = word ++ behind := by
  cases text with
  | nil => cases h
  | cons c rest =>
    rw [Token.read?] at h
    split at h
    · rename_i hbegins
      obtain ⟨value, hvalue, hparts⟩ := Option.map_eq_some_iff.1 h
      cases hparts
      exact ⟨_, spelled_of_number? hbegins hvalue hplain, List.takeWhile_append_dropWhile.symm⟩
    · split at h
      · obtain ⟨literal, -, hparts⟩ := Option.map_eq_some_iff.1 h
        cases hparts
        cases hplain
      · split at h
        · unfold Token.nameOrCall? at h
          dsimp only at h
          split at h
          · obtain ⟨parts, -, hparts⟩ := Option.map_eq_some_iff.1 h
            cases hparts
            cases hplain
          · cases h
            exact ⟨_, .name hplain, List.takeWhile_append_dropWhile.symm⟩
        · split at h
          · rename_i op hop
            cases h
            rw [Operator.eq_sign_of_ofChar? hop]
            exact ⟨_, .operator op, rfl⟩
          · split at h
            · rename_i hopening
              cases h
              rw [hopening]
              exact ⟨_, .opening, rfl⟩
            · split at h
              · rename_i hclosing
                cases h
                rw [hclosing]
                exact ⟨_, .closing, rfl⟩
              · cases h

/-! ## Plain texts -/

/-- A text whose tokens are a sentence of integer arithmetic without calls. -/
structure PlainText (text : Text) (tokens : List Token) : Prop where
  list?_eq : Token.list? text = some tokens
  sentence : Sentence tokens
  plain : ∀ token ∈ tokens, IsPlain token

/-- What plain tokens are read from begins with the word of the first. -/
theorem exists_of_list?_cons {c : Char} {rest : Text} {tokens : List Token}
    (hblank : isBlank c = false) (h : Token.list? (c :: rest) = some tokens)
    (hplain : ∀ token ∈ tokens, IsPlain token) :
    ∃ token others word behind, tokens = token :: others ∧ Spelled token word ∧
      c :: rest = word ++ behind ∧ Token.read? (c :: rest) = some (token, behind) ∧
      Token.list? behind = some others := by
  rw [Token.list?.eq_def] at h
  dsimp only at h
  rw [if_neg (Bool.eq_false_iff.1 hblank)] at h
  split at h
  · cases h
  · rename_i token behind hread
    obtain ⟨others, hothers, rfl⟩ := Option.map_eq_some_iff.1 h
    obtain ⟨word, hword, hbehind⟩ := spelled_of_read? hread (hplain token List.mem_cons_self)
    exact ⟨token, others, word, behind, rfl, hword, hbehind, hread, hothers⟩

theorem inPlain_of_list? {text : Text} {tokens : List Token} (h : Token.list? text = some tokens)
    (hplain : ∀ token ∈ tokens, IsPlain token) : ∀ c ∈ text, isBlank c = true ∨ InPlain c := by
  fun_induction Token.list? text generalizing tokens with
  | case1 => exact List.forall_mem_nil _
  | case2 c rest hblank ih => exact List.forall_mem_cons.2 ⟨.inl hblank, ih h hplain⟩
  | case3 c rest hblank hread => cases h
  | case4 c rest hblank token behind hread ih =>
    obtain ⟨others, hothers, rfl⟩ := Option.map_eq_some_iff.1 h
    rw [List.forall_mem_cons] at hplain
    obtain ⟨word, hword, htext⟩ := spelled_of_read? hread hplain.1
    rw [htext, List.forall_mem_append]
    exact ⟨fun c hc => .inr (hword.inPlain c hc), ih hothers hplain.2⟩

/-- Only a numeral begins with a digit. -/
theorem Spelled.numeral_of_isDigit {token : Token} {word : Text} {c : Char} {rest behind : Text}
    (h : Spelled token word) (htext : c :: rest = word ++ behind) (hdigit : isDigit c = true) :
    ∃ size : Nat, token = .literal (.int size) ∧ IsNumeral word size ∧ inWord size = true := by
  cases h with
  | numeral h hword => exact ⟨_, rfl, h, hword⟩
  | name h =>
    obtain ⟨first, others, rfl, hfirst, -⟩ := h
    cases htext
    rw [isDigit_eq_false_of_isNameStart hfirst] at hdigit
    cases hdigit
  | operator op =>
    cases htext
    cases op <;> cases hdigit
  | opening =>
    cases htext
    cases hdigit
  | closing =>
    cases htext
    cases hdigit

/-- Only a name begins with another character of names. -/
theorem Spelled.name_of_inName {token : Token} {word : Text} {c : Char} {rest behind : Text}
    (h : Spelled token word) (htext : c :: rest = word ++ behind) (hc : Token.inName c = true)
    (hdigit : c.isDigit = false) : ∃ name, token = .name name ∧ isNameStart c = true := by
  cases h with
  | @numeral numeral size h hword =>
    have hhead := h.head
    cases word with
    | nil => cases hhead
    | cons first digits =>
      obtain rfl : c = first := (List.cons.inj htext).1
      rw [List.head?_cons, Option.any_some, hdigit] at hhead
      cases hhead
  | name h =>
    obtain ⟨first, letters, rfl, hfirst, -⟩ := h
    obtain rfl : c = first := (List.cons.inj htext).1
    exact ⟨_, rfl, hfirst⟩
  | operator op =>
    cases htext
    cases op <;> cases hc
  | opening =>
    cases htext
    cases hc
  | closing =>
    cases htext
    cases hc

/-- Digits and underscores are one numeral, where no two operands stand side by side. -/
theorem isNumeral_of_list? {text : Text} {tokens : List Token}
    (h : Token.list? text = some tokens) (hplain : ∀ token ∈ tokens, IsPlain token)
    (hhead : text.head?.any isDigit = true) (hinside : ∀ c ∈ text, isDigit c = true ∨ c = '_')
    (hnext : ∀ value second others, tokens = .literal value :: second :: others →
      ∃ op, second = .operator op) :
    ∃ size : Nat, tokens = [.literal (.int size)] ∧ IsNumeral text size ∧ inWord size = true := by
  have hblank : ∀ c ∈ text, isBlank c = false := fun c hc =>
    Text.isBlank_eq_false_of (p := fun c => isDigit c = true ∨ c = '_') (by decide) (hinside c hc)
  cases text with
  | nil => cases hhead
  | cons c rest =>
    obtain ⟨token, others, word, behind, rfl, hword, hbegins, -, hothers⟩ :=
      exists_of_list?_cons (hblank c List.mem_cons_self) h hplain
    obtain ⟨size, rfl, hnumeral, hsize⟩ := hword.numeral_of_isDigit hbegins hhead
    cases behind with
    | nil =>
      rw [list?_nil] at hothers
      cases hothers
      rw [List.append_nil] at hbegins
      exact ⟨size, rfl, hbegins ▸ hnumeral, hsize⟩
    | cons d more =>
      have hd : d ∈ c :: rest := hbegins ▸ List.mem_append_right _ List.mem_cons_self
      obtain ⟨second, others', word', behind', rfl, hword', hbegins', -, -⟩ :=
        exists_of_list?_cons (hblank d hd) hothers
          fun token htoken => hplain token (List.mem_cons_of_mem _ htoken)
      obtain ⟨op, rfl⟩ := hnext _ _ _ rfl
      cases hword' with
      | operator =>
        cases hbegins'
        exact absurd (hinside _ hd) op.sign_not_in_numeral

namespace PlainText

variable {text : Text} {tokens : List Token} (h : PlainText text tokens)

include h

theorem mem_ne {c : Char} (hc : c ∈ text) {d : Char} (hblank : isBlank d = false)
    (hplain : ¬ InPlain d) : c ≠ d := by
  rintro rfl
  rcases inPlain_of_list? h.list?_eq h.plain c hc with hc | hc
  · rw [hblank] at hc
    cases hc
  · exact hplain hc

/-- Behind an operand stands no other operand and no parenthesis. -/
theorem operator_of_walk (before : List Token) {others : List Token} {token : Token}
    (htokens : tokens = before ++ token :: others)
    (hbefore : Place.start.walk before = some (.operator [])) : ∃ op, token = .operator op := by
  have hwalk : Place.start.walk tokens = some (.operator []) := h.sentence.walk 0 []
  rw [htokens, Place.walk_append hbefore] at hwalk
  cases token with
  | operator op => exact ⟨op, rfl⟩
  | literal | name | call | opening | closing => cases hwalk

theorem splitCall?_eq_none : Expression.splitCall? text = none := by
  cases hcall : Expression.splitCall? text with
  | none => rfl
  | some parts =>
    obtain ⟨name, arguments⟩ := parts
    obtain ⟨gap, hgap, htext, hcallable, -⟩ := Expression.exists_of_splitCall? hcall
    have hinside := Expression.inName_of_isCallable hcallable
    rw [Expression.isCallable, Bool.and_eq_true, Bool.and_eq_true] at hcallable
    obtain ⟨⟨hne, -⟩, hdigit⟩ := hcallable
    cases name with
    | nil => cases hne
    | cons c rest =>
      rw [List.cons_append] at htext
      have hc := hinside c List.mem_cons_self
      have htokens := h.list?_eq
      rw [htext] at htokens
      obtain ⟨token, others, word, behind, hcons, hword, hbegins, hread, hothers⟩ :=
        exists_of_list?_cons (isBlank_eq_false_of_inName hc) htokens h.plain
      obtain ⟨name, rfl, hstart⟩ := hword.name_of_inName hbegins hc (by simpa using hdigit)
      have hgapped := Expression.nameOrCall?_gap hinside hgap (arguments ++ [')'])
      rw [List.cons_append, ← read?_cons_of_isNameStart hstart, hread] at hgapped
      split at hgapped
      · obtain ⟨parts, -, hparts⟩ := Option.map_eq_some_iff.1 hgapped.symm
        cases hparts
      · cases hgapped
        -- a name in front of a parenthesis is no sentence
        rw [list?_blanks hgap, list?_of_read? rfl (read?_opening _)] at hothers
        obtain ⟨others', -, rfl⟩ := Option.map_eq_some_iff.1 hothers
        obtain ⟨op, hop⟩ := h.operator_of_walk [.name _] hcons rfl
        cases hop

theorem integerLiteral?_cases (hop : ∃ op, Token.operator op ∈ tokens) {value : Value}
    (hliteral : Expression.integerLiteral? text = some value) :
    ∃ size : Nat, tokens = [signToken true, .literal (.int size)] ∧ inWord size = true ∧
      value = .int (-size) := by
  obtain ⟨op, hop⟩ := hop
  have hsign : op.sign ∈ text :=
    (Token.isInfix_sign_of_mem_list? h.list?_eq hop).subset List.mem_cons_self
  obtain ⟨numeral, htext, hhead, hinside⟩ := Expression.exists_of_integerLiteral? hliteral
  rcases htext with rfl | rfl
  · exact absurd (hinside _ hsign) op.sign_not_in_numeral
  · have htokens := h.list?_eq
    obtain ⟨others, hothers, rfl⟩ : ∃ others, Token.list? numeral = some others ∧
        signToken true :: others = tokens := by
      rw [show '-' = Connective.minus.sign from rfl, list?_sign] at htokens
      exact Option.map_eq_some_iff.1 htokens
    have hplain := fun token htoken => h.plain token (List.mem_cons_of_mem _ htoken)
    have hnext : ∀ value second others', others = .literal value :: second :: others' →
        ∃ op, second = .operator op := by
      rintro value second others' rfl
      exact h.operator_of_walk [signToken true, .literal value] rfl rfl
    obtain ⟨size, rfl, hnumeral, hsize⟩ := isNumeral_of_list? hothers hplain hhead hinside hnext
    rw [hnumeral.integerLiteral?_neg (inWord_neg hsize)] at hliteral
    cases hliteral
    exact ⟨size, rfl, hsize, rfl⟩

end PlainText

end Arithmetic

end DryRun
