import DryRun.Arithmetic.Machine
import DryRun.Proofs.Expression.Form

/-!
# Terms as they are written

The terms of integer arithmetic and their texts: sums bind less than products, products less than
signs, operators of one rank associate to the left, and parentheses and blanks may stand wherever
they change nothing. What is written that way with an operator is told to be arithmetic, unless it
is a numeral right behind a minus sign, which is a literal (`Written.ofText`).
-/

namespace DryRun

open Unicode

namespace Arithmetic

/-! ## Terms -/

/-- The operators under which integers stay integers. -/
inductive Connective where
  | plus
  | minus
  | times
  deriving DecidableEq

namespace Connective

/-- How an operator is written. -/
def sign : Connective → Char
  | plus => '+'
  | minus => '-'
  | times => '*'

/-- The operator on values. -/
def operator : Connective → Operator
  | plus => .add
  | minus => .subtract
  | times => .multiply

/-- The exact result of an operator. -/
def exact : Connective → Int → Int → Int
  | plus, a, b => a + b
  | minus, a, b => a - b
  | times, a, b => a * b

end Connective

/-- A term of integer arithmetic. -/
inductive Term where
  | literal (n : Nat)
  | name (name : Text)
  | negated (term : Term)
  | joined (op : Connective) (left right : Term)
  deriving DecidableEq

namespace Term

/-- The exact value of a term, given those of its names. -/
def value (valuation : Text → Int) : Term → Int
  | literal n => n
  | name x => valuation x
  | negated term => -term.value valuation
  | joined op left right => op.exact (left.value valuation) (right.value valuation)

/-- The term and the terms in it. -/
def subterms : Term → List Term
  | literal n => [literal n]
  | name x => [.name x]
  | negated term => negated term :: term.subterms
  | joined op left right => joined op left right :: (left.subterms ++ right.subterms)

/-- The names in a term. -/
def names : Term → List Text
  | literal _ => []
  | name x => [x]
  | negated term => term.names
  | joined _ left right => left.names ++ right.names

/-- Whether a term is made with an operator. -/
def hasOperator : Term → Bool
  | literal _ | name _ => false
  | negated _ | joined .. => true

theorem self_mem_subterms (term : Term) : term ∈ term.subterms := by
  cases term <;> simp [subterms]

end Term

/-! ## Texts of terms -/

/-- A name of ASCII letters, digits and underscores that begins with no digit. -/
def IsIdentifier (name : Text) : Prop :=
  ∃ first others, name = first :: others ∧ isNameStart first = true ∧
    ∀ c ∈ others, c.isAlphanum = true ∨ c = '_'

/-- How tightly the outermost operator of a text binds. -/
inductive Level where
  | operand
  | product
  | sum

namespace Connective

/-- The level of an operator, and of its left operand. -/
def level : Connective → Level
  | plus | minus => .sum
  | times => .product

/-- The level of the right operand of an operator. -/
def tighter : Connective → Level
  | plus | minus => .product
  | times => .operand

end Connective

/-- A term as it is written at a level, and how deep parentheses and signs nest in the text. Where
a tighter level is called for, parentheses are needed; elsewhere they are allowed. -/
inductive Written : Level → Term → Text → Nat → Prop
  | literal (n : Nat) : Written .operand (.literal n) (decimalDigits n) 0
  | named {name : Text} (hname : IsIdentifier name) : Written .operand (.name name) name 0
  | negated {term : Term} {text blanks : Text} {depth : Nat} (h : Written .operand term text depth)
      (hblanks : Text.isBlankText blanks = true) :
      Written .operand (.negated term) ('-' :: (blanks ++ text)) (depth + 1)
  | grouped {term : Term} {text before behind : Text} {depth : Nat}
      (h : Written .sum term text depth) (hbefore : Text.isBlankText before = true)
      (hbehind : Text.isBlankText behind = true) :
      Written .operand term ('(' :: ((before ++ (text ++ behind)) ++ [')'])) (depth + 1)
  | joined (op : Connective) {left right : Term} {text text' before behind : Text}
      {depth depth' : Nat} (hleft : Written op.level left text depth)
      (hright : Written op.tighter right text' depth') (hbefore : Text.isBlankText before = true)
      (hbehind : Text.isBlankText behind = true) :
      Written op.level (.joined op left right) (text ++ ((before ++ op.sign :: behind) ++ text'))
        (max depth depth')
  | product {term : Term} {text : Text} {depth : Nat} (h : Written .operand term text depth) :
      Written .product term text depth
  | sum {term : Term} {text : Text} {depth : Nat} (h : Written .product term text depth) :
      Written .sum term text depth

/-! ## Their characters -/

/-- The characters that terms are written with. -/
def Inked (c : Char) : Prop :=
  isBlank c = true ∨ c.isAlphanum = true ∨ c ∈ "_+-*()".toList

instance (c : Char) : Decidable (Inked c) := inferInstanceAs (Decidable (_ ∨ _ ∨ _))

theorem inked_of_isBlankText {blanks : Text} (h : Text.isBlankText blanks = true) {c : Char}
    (hc : c ∈ blanks) : Inked c :=
  Or.inl (Text.isBlankText_iff.1 h c hc)

theorem Inked.ne {c d : Char} (hc : Inked c) (hd : ¬ Inked d) : c ≠ d := by
  rintro rfl
  exact hd hc

theorem IsIdentifier.isAlphanum_or_eq {name : Text} (h : IsIdentifier name) {c : Char}
    (hc : c ∈ name) : c.isAlphanum = true ∨ c = '_' := by
  obtain ⟨first, others, rfl, hfirst, hothers⟩ := h
  rcases List.mem_cons.1 hc with rfl | hc
  · exact (isAlpha_or_eq_of_isNameStart hfirst).imp_left isAlphanum_of_isAlpha
  · exact hothers c hc

theorem IsIdentifier.isBlank_eq_false {name : Text} (h : IsIdentifier name) {c : Char}
    (hc : c ∈ name) : isBlank c = false :=
  Text.isBlank_eq_false_of (p := fun c => c.isAlphanum = true ∨ c = '_') (by decide)
    (h.isAlphanum_or_eq hc)

namespace Written

variable {level : Level} {term : Term} {text : Text} {depth : Nat}

theorem inked_of_mem (h : Written level term text depth) {c : Char} (hc : c ∈ text) : Inked c := by
  induction h with
  | literal n =>
    exact Or.inr (Or.inl (isAlphanum_of_isDigit (isDigit_of_mem_decimalDigits hc)))
  | named hname =>
    rcases hname.isAlphanum_or_eq hc with hletter | rfl
    · exact Or.inr (Or.inl hletter)
    · decide
  | negated h hblanks ih =>
    simp only [List.mem_cons, List.mem_append] at hc
    rcases hc with rfl | hc | hc
    · decide
    · exact inked_of_isBlankText hblanks hc
    · exact ih hc
  | grouped h hbefore hbehind ih =>
    simp only [List.mem_cons, List.mem_append, List.not_mem_nil, or_false] at hc
    rcases hc with rfl | (hc | hc | hc) | rfl
    · decide
    · exact inked_of_isBlankText hbefore hc
    · exact ih hc
    · exact inked_of_isBlankText hbehind hc
    · decide
  | joined op hleft hright hbefore hbehind ihleft ihright =>
    simp only [List.mem_append, List.mem_cons] at hc
    rcases hc with hc | (hc | rfl | hc) | hc
    · exact ihleft hc
    · exact inked_of_isBlankText hbefore hc
    · cases op <;> decide
    · exact inked_of_isBlankText hbehind hc
    · exact ihright hc
  | product h ih => exact ih hc
  | sum h ih => exact ih hc

theorem bare (h : Written level term text depth) : Text.Bare text := by
  induction h with
  | literal n =>
    refine .of_any_eq_false (decimalDigits_ne_nil n) (List.any_eq_false.2 fun c hc => ?_)
    exact forall_isDigit (p := fun c => ¬ isBlank c = true) (by decide)
      (isDigit_of_mem_decimalDigits hc)
  | named hname =>
    apply Text.Bare.of_any_eq_false
    · obtain ⟨first, others, rfl, -⟩ := hname
      exact List.cons_ne_nil first others
    · exact List.any_eq_false.2 fun c hc => Bool.eq_false_iff.1 (hname.isBlank_eq_false hc)
  | @negated term text blanks depth h hblanks ih =>
    have hsign : Text.Bare ['-'] := .of_any_eq_false (by decide) (by decide)
    exact hsign.append blanks ih
  | grouped h hbefore hbehind ih => exact .enclosed (by decide) (by decide) _
  | joined op hleft hright hbefore hbehind ihleft ihright => exact ihleft.append _ ihright
  | product h ih => exact ih
  | sum h ih => exact ih

theorem exists_sign_mem (h : Written level term text depth) (hop : term.hasOperator = true) :
    ∃ op : Connective, op.sign ∈ text := by
  induction h with
  | literal n => cases hop
  | named hname => cases hop
  | negated h hblanks ih => exact ⟨.minus, List.mem_cons_self⟩
  | grouped h hbefore hbehind ih =>
    obtain ⟨op, hmem⟩ := ih hop
    exact ⟨op, by simp [hmem]⟩
  | joined op hleft hright hbefore hbehind ihleft ihright => exact ⟨op, by simp⟩
  | product h ih => exact ih hop
  | sum h ih => exact ih hop

/-! ## Their form -/

/-- The first parenthesis of a term stands at its beginning or behind an operator. -/
theorem takeWhile_ne_opening (h : Written level term text depth) :
    text.takeWhile (· != '(') = text ∨ text.takeWhile (· != '(') = [] ∨
      ∃ op : Connective, op.sign ∈ text.takeWhile (· != '(') := by
  induction h with
  | literal n =>
    refine Or.inl (List.takeWhile_eq_self_iff.2 fun c hc => ?_)
    exact forall_isDigit (p := (· != '(')) (by decide) (isDigit_of_mem_decimalDigits hc)
  | named hname =>
    refine Or.inl (List.takeWhile_eq_self_iff.2 fun c hc => bne_iff_ne.2 ?_)
    rintro rfl
    have hnone := hname.isAlphanum_or_eq hc
    revert hnone
    decide
  | negated h hblanks ih => exact Or.inr (Or.inr ⟨.minus, by simp [Connective.sign]⟩)
  | grouped h hbefore hbehind ih => exact Or.inr (Or.inl (by simp))
  | joined op hleft hright hbefore hbehind ihleft ihright =>
    -- the parenthesis stands in the left operand, or else behind the operator
    rw [List.takeWhile_append]
    split
    · have hsign : (op.sign != '(') = true := by cases op <;> decide
      refine Or.inr (Or.inr ⟨op, List.mem_append_right _ ?_⟩)
      rw [List.append_assoc, List.takeWhile_append_of_pos, List.cons_append,
        List.takeWhile_cons_of_pos (by exact hsign)]
      · exact List.mem_append_right _ List.mem_cons_self
      · intro c hc
        exact Text.forall_isBlank (p := (· != '(')) (by decide)
          (Text.isBlankText_iff.1 hbefore c hc)
    · rename_i hlength
      exact Or.inr (ihleft.resolve_left fun hself => hlength (by rw [hself]))
  | product h ih => exact ih
  | sum h ih => exact ih

/-- An operand is a numeral, or begins with no digit. -/
theorem head?_of_operand (h : Written level term text depth) (hlevel : level = .operand) :
    (∃ n, term = .literal n ∧ text = decimalDigits n) ∨
      ∃ c, text.head? = some c ∧ isDigit c = false := by
  cases h with
  | literal n => exact Or.inl ⟨n, rfl, rfl⟩
  | named hname =>
    obtain ⟨first, others, rfl, hfirst, -⟩ := hname
    exact Or.inr ⟨first, rfl, isDigit_eq_false_of_isNameStart hfirst⟩
  | negated h hblanks => exact Or.inr ⟨'-', rfl, by decide⟩
  | grouped h hbefore hbehind => exact Or.inr ⟨'(', rfl, by decide⟩
  | joined op hleft hright hbefore hbehind => cases op <;> cases hlevel
  | product h => cases hlevel
  | sum h => cases hlevel

/-- A term with an operator is no integer literal, unless it is a numeral right behind a minus
sign. -/
theorem integerLiteral?_eq_none_or (h : Written level term text depth)
    (hop : term.hasOperator = true) :
    Expression.integerLiteral? text = none ∨
      ∃ n, term = .negated (.literal n) ∧ text = '-' :: decimalDigits n := by
  induction h with
  | literal n => cases hop
  | named hname => cases hop
  | @negated term text blanks depth h hblanks ih =>
    cases blanks with
    | nil =>
      rcases h.head?_of_operand rfl with ⟨n, rfl, rfl⟩ | ⟨c, hc, hdigit⟩
      · exact Or.inr ⟨n, rfl, rfl⟩
      · refine Or.inl (Expression.integerLiteral?_neg_eq_none ?_)
        rw [List.nil_append, hc, Option.any_some, hdigit]
    | cons c blanks =>
      have hblank := Text.isBlankText_iff.1 hblanks c List.mem_cons_self
      refine Or.inl (Expression.integerLiteral?_neg_eq_none ?_)
      exact Text.forall_isBlank (p := fun c => isDigit c = false) (by decide) hblank
  | grouped h hbefore hbehind ih =>
    exact Or.inl (Expression.integerLiteral?_eq_none_of_mem (d := ')') (by simp) (by decide)
      (by decide))
  | @joined op left right text text' before behind depth depth' hleft hright hbefore hbehind ihleft
      ihright =>
    obtain ⟨c, rest, rfl⟩ := List.exists_cons_of_ne_nil hleft.bare.ne_nil
    refine Or.inl (Expression.integerLiteral?_eq_none_of_mem (d := op.sign) ?_ ?_ ?_)
    · simp
    · cases op <;> decide
    · cases op <;> decide
  | product h ih => exact ih hop
  | sum h ih => exact ih hop

theorem splitCall?_eq_none (h : Written level term text depth) :
    Expression.splitCall? text = none := by
  apply Expression.splitCall?_eq_none
  intro before rest hsplit
  rw [Expression.eq_takeWhile_of_splitFirst? hsplit]
  rcases h.takeWhile_ne_opening with hself | hnil | ⟨op, hsign⟩
  · have hnone : Text.splitFirst? (· == '(') text = none := by
      apply Expression.splitFirst?_eq_none
      intro c hc
      exact beq_eq_false_iff_ne.2 (bne_iff_ne.1 (List.takeWhile_eq_self_iff.1 hself c hc))
    rw [hnone] at hsplit
    cases hsplit
  · exact Or.inl hnil
  · exact Or.inr ⟨op.sign, hsign, by cases op <;> decide⟩

/-- A term with an operator is arithmetic, unless it is an integer literal. -/
theorem ofText (h : Written level term text depth) (hop : term.hasOperator = true)
    (functions : Functions) :
    Expression.Form.ofText functions text =
      ((Expression.integerLiteral? text).map .literal).getD .arithmetic := by
  have hne : ∀ {c : Char}, c ∈ text → ∀ {d : Char}, ¬ Inked d → c ≠ d :=
    fun hc _ hd => (h.inked_of_mem hc).ne hd
  have hquote : ∀ c ∈ text, Quote.ofChar? c = none := by
    intro c hc
    rw [Quote.ofChar?, if_neg (hne hc (by decide)), if_neg (hne hc (by decide))]
  have hpoint : '.' ∉ text := fun hmem => hne hmem (by decide) rfl
  have hlist : Expression.listContents? text = none := by
    obtain ⟨c, rest, rfl⟩ := List.exists_cons_of_ne_nil h.bare.ne_nil
    exact Expression.listContents?_cons_eq_none (hne List.mem_cons_self (by decide)) rest
  obtain ⟨op, hsign⟩ := h.exists_sign_mem hop
  have hconstant : Expression.constant? text = none :=
    Expression.constant?_eq_none hsign (by cases op <;> decide)
  have hany : text.any Expression.isOperatorSign = true :=
    List.any_eq_true.2 ⟨op.sign, hsign, by cases op <;> decide⟩
  cases hinteger : Expression.integerLiteral? text <;>
    simp [Expression.Form.ofText, h.bare.ne_nil, Expression.stringLiteral?_eq_none hquote,
      Expression.template?_eq_none hquote, Expression.callOf?_eq_none h.splitCall?_eq_none,
      hinteger, Expression.floatLiteral?_eq_none hpoint, hconstant, hlist, hany]

end Written

end Arithmetic

end DryRun
