import DryRun.Proofs.Evaluation.Lists
import DryRun.Proofs.Evaluation.Parentheses

/-!
# One budget for lists and parentheses

Lists nest in the evaluation of expressions and parentheses in the machine of arithmetic, which gets
what the lists around it have left. So both draw on one room, and the error tells in which of them
it ran out (`evaluate_enclosed_sum`).

1. Texts in any number of brackets.
2. The machine in any number of parentheses.
3. Sums in parentheses, and lists around them.
-/

namespace DryRun

open Expression Arithmetic Evaluation

/-! ## Texts in brackets -/

/-- A text in a number of brackets of a kind. -/
def enclosed (bracket : Bracket) (count : Nat) (text : Text) : Text :=
  List.replicate count bracket.opener ++ (text ++ List.replicate count bracket.closer)

/-- A value in a number of lists. -/
def inLists : Nat → Value → Value
  | 0, value => value
  | count + 1, value => .list [inLists count value]

section Enclosed

variable (bracket : Bracket) (count : Nat) {text : Text}

theorem enclosed_zero (text : Text) : enclosed bracket 0 text = text := List.append_nil text

theorem enclosed_succ (text : Text) :
    enclosed bracket (count + 1) text =
      bracket.opener :: (enclosed bracket count text ++ [bracket.closer]) := by
  unfold enclosed
  rw [List.replicate_succ, List.replicate_succ', List.cons_append, List.append_assoc,
    List.append_assoc]

theorem bare_enclosed (h : Text.Bare text) : Text.Bare (enclosed bracket count text) := by
  cases count with
  | zero => rwa [enclosed_zero]
  | succ count =>
    rw [enclosed_succ]
    cases bracket <;> exact .enclosed (by decide) (by decide) _

theorem sealed_enclosed (h : Sealed 0 text) : Sealed 0 (enclosed bracket count text) := by
  induction count with
  | zero => rwa [enclosed_zero]
  | succ count ih =>
    rw [enclosed_succ]
    exact .enclosed bracket (ih.mono (Nat.zero_le 1))

theorem any_enclosed {p : Char → Bool} (h : text.any p = true) :
    (enclosed bracket count text).any p = true := by
  unfold enclosed
  rw [List.any_append, List.any_append, h, Bool.true_or, Bool.or_true]

end Enclosed

/-! ## The machine -/

namespace Arithmetic

/-- Tokens in a number of parentheses. -/
def inGroups : Nat → List Token → List Token
  | 0, tokens => tokens
  | count + 1, tokens => .opening :: (inGroups count tokens ++ [.closing])

theorem list?_enclosed {text : Text} {tokens : List Token} (h : Token.list? text = some tokens)
    (count : Nat) : Token.list? (enclosed .round count text) = some (inGroups count tokens) := by
  induction count with
  | zero => rwa [enclosed_zero]
  | succ count ih =>
    rw [enclosed_succ]
    exact list?_grouped ih

theorem Denotes.grouped_iterate {scope : Scope} {room : Nat} {tokens : List Token} {value : Value}
    (h : Denotes scope room .sum tokens value) (count : Nat) :
    Denotes scope (room + count) .sum (inGroups count tokens) value := by
  induction count with
  | zero => exact h
  | succ count ih => exact .sum (.product (.grouped ih))

/-- Where parentheses go deeper than the room, the machine stops at the first that does. -/
theorem foldlM_inGroups_of_lt {scope : Scope} {stack : Stack} (hstack : stack.depth ≤ scope.room)
    {count : Nat} (h : scope.room < stack.depth + count) (tokens rest : List Token) :
    (inGroups count tokens ++ rest).foldlM (step scope) (.before stack) =
      .error (.error .parenthesesLimit) := by
  induction count generalizing stack rest with
  | zero => omega
  | succ count ih =>
    show (enter scope .group stack >>= fun state =>
      (inGroups count tokens ++ [Token.closing] ++ rest).foldlM (step scope) state) = _
    by_cases hroom : stack.depth < scope.room
    · have hdepth : Stack.depth (.group :: stack) = stack.depth + 1 := Stack.depth_group stack
      rw [enter_of_lt hroom, List.append_assoc]
      exact ih (by omega) (by omega) _
    · rw [enter, if_neg hroom]
      rfl

theorem run_inGroups_of_lt {scope : Scope} {count : Nat} (h : scope.room < count)
    (tokens : List Token) :
    run scope (inGroups count tokens) = .error (.error .parenthesesLimit) := by
  have hempty : Stack.depth [] ≤ scope.room := Nat.zero_le scope.room
  have hrun := foldlM_inGroups_of_lt hempty (h.trans_eq (Nat.zero_add count).symm) tokens []
  rw [List.append_nil] at hrun
  rw [run, hrun]
  rfl

end Arithmetic

/-! ## Sums in parentheses -/

/-- A sum of two numbers. -/
def onePlusOne : Text := "1 + 1".toList

theorem list?_onePlusOne :
    Token.list? onePlusOne =
      some [.literal (.int 1), .operator .add, .literal (.int 1)] := by
  have hfirst : Token.read? onePlusOne = some (.literal (.int 1), " + 1".toList) :=
    read?_decimalDigits_append (n := 1) (by decide) (by decide)
  have hsecond : Token.read? "1".toList = some (.literal (.int 1), []) :=
    read?_decimalDigits_append (n := 1) (by decide) (by decide)
  rw [list?_of_read? (by decide) hfirst]
  show (Token.list? (' ' :: "+ 1".toList)).map _ = _
  rw [list?_cons_of_isBlank (by decide)]
  show (Token.list? (Connective.plus.sign :: " 1".toList)).map _ = _
  rw [list?_of_read? (by decide) (read?_sign .plus _)]
  show ((Token.list? (' ' :: "1".toList)).map _).map _ = _
  rw [list?_cons_of_isBlank (by decide), list?_of_read? (by decide) hsecond, list?_nil]
  rfl

theorem denotes_onePlusOne (scope : Scope) (room : Nat) :
    Denotes scope room .sum [.literal (.int 1), .operator .add, .literal (.int 1)] (.int 2) := by
  have hone : Denotes scope room .product [.literal (.int 1)] (.int 1) :=
    .product (.literal room (.int 1))
  have hresult : Operator.add.apply (.int 1) (.int 1) = .ok (.int 2) := rfl
  exact .joined (.sum hone) hone hresult

theorem bare_onePlusOne : Text.Bare onePlusOne :=
  .enclosed (by decide) (by decide) " + ".toList

section Values

variable (functions : Functions) (calls : Nat) (env : Environment)

theorem ofText_enclosed_onePlusOne (count : Nat) :
    Form.ofText functions (enclosed .round count onePlusOne) = .arithmetic := by
  cases count with
  | zero => rfl
  | succ count =>
    have hsign : (enclosed .round count onePlusOne).any isOperatorSign = true :=
      any_enclosed .round count (by decide)
    rw [enclosed_succ]
    exact (ofText_parenthesized functions _).trans (if_pos hsign)

/-- The machine has what its expression leaves: one level less for the parentheses. -/
theorem evaluate_enclosed_round (room count : Nat) :
    evaluate functions (room + 1) calls env (enclosed .round count onePlusOne) =
      if count ≤ room then .ok (.int 2) else .error .parenthesesLimit := by
  have htrim := (bare_enclosed .round count bare_onePlusOne).trim_eq
  have hform : Form.ofText functions (Text.trim (enclosed .round count onePlusOne)) =
      .arithmetic := by
    rw [htrim, ofText_enclosed_onePlusOne]
  have hroom : (operandScope functions room calls env).room = room := rfl
  rw [evaluate_arithmetic hform, htrim, Arithmetic.evaluate,
    list?_enclosed list?_onePlusOne count]
  dsimp only
  by_cases hcount : count ≤ room
  · have hvalue := (denotes_onePlusOne (operandScope functions room calls env)
      (room - count)).grouped_iterate count
    rw [Nat.sub_add_cancel hcount] at hvalue
    rw [if_pos hcount, run_eq_ok_iff.2 hvalue]
    rfl
  · rw [if_neg hcount, run_inGroups_of_lt (hroom.trans_lt (Nat.lt_of_not_le hcount))]
    rfl

/-- A list of one text that is not blank. -/
theorem evaluate_singleton {text : Text} (hbare : Text.Bare text) (hsealed : Sealed 0 text)
    (nesting : Nat) :
    evaluate functions (nesting + 1) calls env
        (Bracket.square.opener :: (text ++ [Bracket.square.closer])) =
      (evaluate functions nesting calls env text).map fun value => .list [value] := by
  have hblank : Text.isBlankText text = false := by
    rw [Bool.eq_false_iff, Ne, ← Text.trim_eq_nil_iff, hbare.trim_eq]
    exact hbare.ne_nil
  have hall : ∀ item ∈ [text], Sealed 0 item := List.forall_mem_singleton.2 hsealed
  have hjoined := evaluate_joined functions nesting calls env hall
    (List.forall_mem_singleton.2 hblank)
  rw [Text.join_singleton] at hjoined
  rw [hjoined, List.mapM_cons]
  cases evaluate functions nesting calls env text <;> rfl

/-- Each list around a text takes a level from what is inside. -/
theorem evaluate_enclosed_square {text : Text} (hbare : Text.Bare text) (hsealed : Sealed 0 text)
    (count nesting : Nat) :
    evaluate functions nesting calls env (enclosed .square count text) =
      if nesting ≤ count then .error .recursionLimit
      else (evaluate functions (nesting - count) calls env text).map (inLists count) := by
  induction count generalizing nesting with
  | zero =>
    rw [enclosed_zero]
    cases nesting with
    | zero => rw [evaluate, if_pos (le_refl 0)]
    | succ nesting =>
      rw [if_neg (Nat.not_succ_le_zero nesting), Nat.sub_zero]
      cases evaluate functions (nesting + 1) calls env text <;> rfl
  | succ count ih =>
    cases nesting with
    | zero => rw [evaluate, if_pos (Nat.zero_le _)]
    | succ nesting =>
      rw [enclosed_succ, evaluate_singleton functions calls env (bare_enclosed .square count hbare)
        (sealed_enclosed .square count hsealed), ih]
      simp only [Nat.add_le_add_iff_right, Nat.add_sub_add_right]
      by_cases hcount : nesting ≤ count
      · rw [if_pos hcount, if_pos hcount]
        rfl
      · rw [if_neg hcount, if_neg hcount]
        cases evaluate functions (nesting - count) calls env text <;> rfl

theorem evaluate_enclosed (lists parentheses nesting : Nat) :
    evaluate functions nesting calls env
        (enclosed .square lists (enclosed .round parentheses onePlusOne)) =
      if nesting ≤ lists then .error .recursionLimit
      else if nesting < lists + parentheses + 1 then .error .parenthesesLimit
      else .ok (inLists lists (.int 2)) := by
  have hbare := bare_enclosed .round parentheses bare_onePlusOne
  have hsealed : Sealed 0 (enclosed .round parentheses onePlusOne) :=
    sealed_enclosed .round parentheses (.plainText (by decide))
  rw [evaluate_enclosed_square functions calls env hbare hsealed]
  by_cases hlists : nesting ≤ lists
  · rw [if_pos hlists, if_pos hlists]
  · obtain ⟨room, hroom⟩ : ∃ room, nesting - lists = room + 1 := ⟨nesting - lists - 1, by omega⟩
    rw [if_neg hlists, if_neg hlists, hroom, evaluate_enclosed_round]
    by_cases hparentheses : parentheses ≤ room
    · rw [if_pos hparentheses, if_neg (by omega)]
      rfl
    · rw [if_neg hparentheses, if_pos (by omega)]
      rfl

end Values

/-- **One budget.** A sum in parentheses in lists has its value, in as many lists, just where the
budget exceeds all the brackets together. Where it does not exceed the lists, they nest too deep for
the evaluation, and otherwise the parentheses nest too deep for what the lists leave of it. -/
theorem evaluate_enclosed_sum (lists parentheses : Nat) (functions : Functions)
    (nesting calls : Nat) (env : Environment) :
    let outcome := (evaluate functions nesting calls env
      (enclosed .square lists (enclosed .round parentheses "1 + 1".toList))).mapError
        EvalError.message
    (outcome = .ok (inLists lists (.int 2)) ↔ lists + parentheses + 1 ≤ nesting) ∧
    (outcome = .error "RecursionError: maximum recursion depth exceeded" ↔ nesting ≤ lists) ∧
    (outcome = .error "SyntaxError: too many nested parentheses" ↔
      lists < nesting ∧ nesting < lists + parentheses + 1) := by
  intro outcome
  have houtcome : outcome = Except.mapError EvalError.message
      (if nesting ≤ lists then .error .recursionLimit
        else if nesting < lists + parentheses + 1 then .error .parenthesesLimit
        else .ok (inLists lists (.int 2))) :=
    congrArg (Except.mapError EvalError.message)
      (evaluate_enclosed functions calls env lists parentheses nesting)
  have hmessages : EvalError.recursionLimit.message ≠ EvalError.parenthesesLimit.message := by
    decide
  by_cases hlists : nesting ≤ lists
  · rw [if_pos hlists] at houtcome
    rw [houtcome]
    exact ⟨iff_of_false nofun (by omega), iff_of_true rfl hlists,
      iff_of_false (fun h => hmessages (Except.error.inj h)) (by omega)⟩
  · rw [if_neg hlists] at houtcome
    by_cases hparentheses : nesting < lists + parentheses + 1
    · rw [if_pos hparentheses] at houtcome
      rw [houtcome]
      exact ⟨iff_of_false nofun (by omega),
        iff_of_false (fun h => hmessages (Except.error.inj h).symm) hlists,
        iff_of_true rfl ⟨by omega, hparentheses⟩⟩
    · rw [if_neg hparentheses] at houtcome
      rw [houtcome]
      exact ⟨iff_of_true rfl (by omega), iff_of_false nofun hlists,
        iff_of_false nofun (by omega)⟩

end DryRun
