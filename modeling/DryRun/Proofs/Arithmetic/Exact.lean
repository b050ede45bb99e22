import DryRun.Proofs.Arithmetic.Groups
import DryRun.Proofs.Evaluation.Forms

/-!
# Exact arithmetic

A term of integers has its exact value as long as the values of all its parts have a place in 64
bits: the tokens of its text denote the value, by induction on how the term is written
(`Written.exists_denotes`), and the machine yields what its tokens denote. The result is about whole
expressions (`evaluate_written`).
-/

namespace DryRun

open Unicode

namespace Arithmetic

/-! ## Operators -/

theorem apply_operator {op : Connective} {a b : Int} (h : inWord (op.exact a b) = true) :
    op.operator.apply (.int a) (.int b) = .ok (.int (op.exact a b)) := by
  cases op <;>
    · simp only [Connective.operator, Connective.exact] at h ⊢
      simp [Operator.apply, Operator.ofInts, h]

theorem applySign_negative {n : Int} (h : inWord (-n) = true) :
    Operator.applySign true (.int n) = .ok (.int (-n)) := by
  simp [Operator.applySign, h]

theorem level_operator (op : Connective) : op.operator.level = op.level := by cases op <;> rfl

theorem tighter_operator (op : Connective) : op.operator.tighter = op.tighter := by
  cases op <;> rfl

/-! ## Along a term -/

/-- The tokens of a term denote its value in every room that suffices for its parentheses and
signs. -/
theorem Written.exists_denotes {level : Level} {term : Term} {text : Text} {depth : Nat}
    (h : Written level term text depth) {scope : Scope} {valuation : Text → Int}
    (hnames : ∀ name ∈ term.names, scope.valueOf? name = some (.int (valuation name)))
    (hexact : ∀ part ∈ term.subterms, inWord (part.value valuation) = true) :
    ∃ tokens, Token.list? text = some tokens ∧
      ∀ room, depth ≤ room → Denotes scope room level tokens (.int (term.value valuation)) := by
  have hself := hexact term term.self_mem_subterms
  induction h with
  | literal n =>
    have hword : inWord n = true := hself
    have htokens := (isNumeral_decimalDigits n).list?_eq
    rw [numeralValue, if_pos hword] at htokens
    exact ⟨_, htokens, fun room _ => .literal room _⟩
  | @named name hname =>
    exact ⟨_, list?_name hname.isName, fun room _ => .name room (hnames name List.mem_cons_self)⟩
  | @negated term text blanks depth h hblanks ih =>
    simp only [Term.subterms, List.forall_mem_cons] at hexact
    obtain ⟨tokens, htokens, hvalue⟩ := ih hnames hexact.2 (hexact.2 _ term.self_mem_subterms)
    refine ⟨_, list?_negated ((list?_blanks hblanks text).trans htokens), fun room hroom => ?_⟩
    obtain ⟨inner, rfl⟩ : ∃ inner, room = inner + 1 := ⟨room - 1, by omega⟩
    exact .signed (hvalue inner (by omega)) (applySign_negative hself)
  | grouped h hbefore hbehind ih =>
    obtain ⟨tokens, htokens, hvalue⟩ := ih hnames hexact hself
    refine ⟨_, list?_grouped (list?_surrounded htokens hbefore hbehind), fun room hroom => ?_⟩
    obtain ⟨inner, rfl⟩ : ∃ inner, room = inner + 1 := ⟨room - 1, by omega⟩
    exact .grouped (hvalue inner (by omega))
  | @joined op left right text text' before behind depth depth' hleft hright hbefore hbehind ihleft
      ihright =>
    simp only [Term.names, Term.subterms, List.forall_mem_cons, List.forall_mem_append]
      at hnames hexact
    obtain ⟨tokens, htokens, hvalue⟩ :=
      ihleft hnames.1 hexact.2.1 (hexact.2.1 _ left.self_mem_subterms)
    obtain ⟨tokens', htokens', hvalue'⟩ :=
      ihright hnames.2 hexact.2.2 (hexact.2.2 _ right.self_mem_subterms)
    refine ⟨_, list?_joined op htokens htokens' hbefore hbehind, fun room hroom => ?_⟩
    rw [← level_operator] at hvalue ⊢
    rw [← tighter_operator] at hvalue'
    exact .joined (hvalue room (by omega)) (hvalue' room (by omega)) (apply_operator hself)
  | product h ih =>
    obtain ⟨tokens, htokens, hvalue⟩ := ih hnames hexact hself
    exact ⟨tokens, htokens, fun room hroom => .product (hvalue room hroom)⟩
  | sum h ih =>
    obtain ⟨tokens, htokens, hvalue⟩ := ih hnames hexact hself
    exact ⟨tokens, htokens, fun room hroom => .sum (hvalue room hroom)⟩

theorem Written.evaluate_eq {term : Term} {text : Text} {depth : Nat}
    (h : Written .sum term text depth) {scope : Scope} {valuation : Text → Int}
    (hnames : ∀ name ∈ term.names, scope.valueOf? name = some (.int (valuation name)))
    (hexact : ∀ part ∈ term.subterms, inWord (part.value valuation) = true)
    (hroom : depth ≤ scope.room) :
    Arithmetic.evaluate scope text = .ok (some (.int (term.value valuation))) := by
  obtain ⟨tokens, htokens, hvalue⟩ := h.exists_denotes hnames hexact
  exact evaluate_eq_some_iff.2 ⟨tokens, htokens, hvalue _ hroom⟩

end Arithmetic

/-! ## Whole expressions -/

/-- **Exact arithmetic.** What a term with an operator evaluates to, with blanks around it or not,
is its exact value, where its names stand for integers, the value of each of its parts has a place
in 64 bits, and the room inside the expression suffices for its parentheses and signs. -/
theorem evaluate_written {term : Arithmetic.Term} {text before behind : Text} {depth : Nat}
    (h : Arithmetic.Written .sum term text depth) (hop : term.hasOperator = true)
    (hbefore : Text.isBlankText before = true) (hbehind : Text.isBlankText behind = true)
    {env : Environment} {valuation : Text → Int}
    (hnames : ∀ name ∈ term.names, env.find? name = some (.int (valuation name)))
    (hexact : ∀ part ∈ term.subterms, inWord (part.value valuation) = true) {nesting : Nat}
    (hroom : depth < nesting) (functions : Functions) (calls : Nat) :
    evaluate functions nesting calls env (before ++ (text ++ behind)) =
      .ok (.int (term.value valuation)) := by
  obtain ⟨room, rfl⟩ : ∃ room, nesting = room + 1 := ⟨nesting - 1, by omega⟩
  have htrim := h.bare.trim_surrounded hbefore hbehind
  have hform := h.ofText hop functions
  rcases h.integerLiteral?_eq_none_or hop with hnone | ⟨n, rfl, rfl⟩
  · rw [hnone] at hform
    apply evaluate_of_arithmetic
    · rw [htrim, hform]
      rfl
    · intro call
      rw [htrim]
      exact h.evaluate_eq hnames hexact (Nat.le_of_lt_succ hroom)
  · have hn : inWord (-(n : Int)) = true := hexact _ (Arithmetic.Term.self_mem_subterms _)
    rw [Expression.integerLiteral?_neg_decimalDigits hn] at hform
    apply evaluate_of_literal
    rw [htrim, hform]
    rfl

/-- Operators of one rank, parentheses that are needed and signs before and behind blanks. -/
theorem evaluate_written_mixed :
    let env : Environment := [("x".toList, .int 7), ("y".toList, .int 5)]
    evaluate [] 4 0 env " x - (y-2)*- ( - 3+x ) - -1".toList = .ok (.int 20) := by
  intro env
  let valuation : Text → Int := fun name => if name = "x".toList then 7 else 5
  have hx : Arithmetic.Written .operand (.name "x".toList) "x".toList 0 :=
    .named ⟨'x', [], rfl, by decide, nofun⟩
  have hy : Arithmetic.Written .operand (.name "y".toList) "y".toList 0 :=
    .named ⟨'y', [], rfl, by decide, nofun⟩
  have hnil : Text.isBlankText [] = true := rfl
  have hspace : Text.isBlankText [' '] = true := rfl
  have hdifference := Arithmetic.Written.joined .minus hy.product.sum (.product (.literal 2))
    hnil hnil
  have hsum := Arithmetic.Written.joined .plus
    (Arithmetic.Written.negated (.literal 3) hspace).product.sum hx.product hnil hnil
  have hproduct := Arithmetic.Written.joined .times (hdifference.grouped hnil hnil).product
    (.negated (hsum.grouped hspace hspace) hspace) hnil hnil
  have hterm := Arithmetic.Written.joined .minus
    (Arithmetic.Written.joined .minus hx.product.sum hproduct hspace hspace)
    (.product (.negated (.literal 1) hnil)) hspace hspace
  have hnames : ∀ name ∈ ["x".toList, "y".toList, "x".toList],
      env.find? name = some (.int (valuation name)) := by
    simp only [List.forall_mem_cons]
    exact ⟨rfl, rfl, rfl, nofun⟩
  exact evaluate_written hterm (by rfl) hspace hnil hnames (by decide) (by decide) [] 0

end DryRun
