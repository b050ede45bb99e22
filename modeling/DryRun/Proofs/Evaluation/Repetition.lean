import DryRun.Proofs.Arithmetic.Repetition
import DryRun.Proofs.Evaluation.Operands

/-!
# Bounded repetition

The limit on the length of a sequence is all that limits how often it is repeated: a product makes
one round for each copy, and is refused before the first where the length of all copies would exceed
the limit. For a sequence with items this bounds the rounds by the limit as well
(`repetition_bounded`). For an empty one it does not: its copies have no length, so no number of
them is refused, and a product makes as many rounds as an integer can say
(`empty_repetition_allowed`).
-/

namespace DryRun

open Unicode Expression Arithmetic Evaluation

/-! ## Products -/

namespace Value

variable {s : Value}

theorem IsSequence.apply_multiply (h : s.IsSequence) (n : Int) :
    Operator.multiply.apply s (.int n) = within (s.length * n.toNat) (s.repeated n.toNat) := by
  cases h <;> rfl

theorem IsSequence.multiply_comm (h : s.IsSequence) (n : Int) :
    Operator.multiply.apply (.int n) s = Operator.multiply.apply s (.int n) := by
  cases h <;> rfl

theorem IsSequence.length_repeated (h : s.IsSequence) (times : Nat) :
    (s.repeated times).length = s.length * times := by
  cases h with
  | str text => exact Operator.length_copies times text
  | list items => exact Operator.length_copies times items

theorem IsSequence.repeated_of_length_eq_zero (h : s.IsSequence) (hempty : s.length = 0)
    (times : Nat) : s.repeated times = s := by
  cases h with
  | str text =>
    rw [List.length_eq_zero_iff.1 hempty]
    exact congrArg Value.str (Operator.copies_nil times)
  | list items =>
    rw [List.length_eq_zero_iff.1 hempty]
    exact congrArg Value.list (Operator.copies_nil times)

/-- The rounds of the loop that repeats a sequence. -/
def rounds (times : Nat) : Value → Nat
  | str text => (Operator.repetition times text).rounds
  | list items => (Operator.repetition times items).rounds
  | _ => 0

theorem IsSequence.rounds_eq (h : s.IsSequence) (times : Nat) : s.rounds times = times := by
  cases h with
  | str text => exact Operator.rounds_repetition times text
  | list items => exact Operator.rounds_repetition times items

end Value

/-! ## Products of variables -/

theorem isName_letter {c : Char} (h : isNameStart c = true) : IsName [c] := ⟨c, [], rfl, h, nofun⟩

/-- The product of two variables. -/
def productText (left right : Text) : Text := left ++ (" * ".toList ++ right)

theorem run_product {scope : Scope} {left right : Token} {a b : Value}
    (hleft : ∀ stack, readOperand scope stack left = settle a stack)
    (hright : ∀ stack, readOperand scope stack right = settle b stack) :
    run scope [left, .operator .multiply, right] = Operator.multiply.apply a b := by
  have hfirst : step scope (.before []) left = .ok (.after a []) := hleft []
  have hsecond : step scope (.before [.operand a .multiply]) right =
      (do settle (← Operator.multiply.apply a b) []) := hright [.operand a .multiply]
  rw [run, List.foldlM_cons, hfirst]
  show (do finish (← (do step scope (.before [.operand a .multiply]) right) >>= pure)) = _
  rw [hsecond]
  cases Operator.multiply.apply a b <;> rfl

theorem readOperand_name {scope : Scope} {name : Text} {value : Value}
    (h : scope.valueOf? name = some value) (stack : Stack) :
    readOperand scope stack (.name name) = settle value stack := by
  rw [readOperand, h]

section Variables

variable {left right : Text} (hleft : IsName left) (hright : IsName right)

include hleft hright

theorem bare_productText : Text.Bare (productText left right) :=
  hleft.bare.append " * ".toList hright.bare

theorem opening_not_mem_productText : '(' ∉ productText left right := by
  have hopening : Token.inName '(' = false := by decide
  simp [productText, hleft.not_mem hopening, hright.not_mem hopening]

theorem ofText_productText (functions : Functions) :
    Form.ofText functions (productText left right) = .arithmetic := by
  have hsign : '*' ∈ productText left right := by simp [productText]
  have hwhole : (productText left right).takeWhile (· != '(') = productText left right := by
    refine List.takeWhile_eq_self_iff.2 fun c hc => bne_iff_ne.2 ?_
    rintro rfl
    exact opening_not_mem_productText hleft hright hc
  have hname := hleft
  obtain ⟨first, others, rfl, hfirst, hothers⟩ := hleft
  -- what stands behind the first character is part of the name or a space
  obtain ⟨d, rest, hd, hblank, htext⟩ : ∃ d rest, Quote.ofChar? d = none ∧ ' ' ∈ d :: rest ∧
      productText (first :: others) right = first :: d :: rest := by
    cases others with
    | nil => exact ⟨' ', _, rfl, List.mem_cons_self, rfl⟩
    | cons d others =>
      have hd := Quote.ofChar?_eq_none_of (by decide) (by decide) (hothers d List.mem_cons_self)
      exact ⟨d, _, hd, by simp, rfl⟩
  rw [htext] at hsign hwhole ⊢
  refine ofText_eq_arithmetic_of_isNameStart functions hfirst hd hblank
    (List.any_eq_true.2 ⟨'*', hsign, by decide⟩) (splitCall?_cons_eq_none_of_sign .times ?_)
  rw [hwhole]
  exact hsign

theorem list?_productText : Token.list? (productText left right) =
    some [.name left, .operator .multiply, .name right] := by
  have hspace : Text.isBlankText [' '] = true := rfl
  exact list?_joined .times (list?_name hleft) (list?_name hright) hspace hspace

theorem evaluate_productText {env : Environment} {a b : Value} (ha : env.find? left = some a)
    (hb : env.find? right = some b) (functions : Functions) (nesting calls : Nat) :
    evaluate functions (nesting + 1) calls env (productText left right) =
      orText (productText left right) (Operator.multiply.apply a b) := by
  rw [evaluate_of_tokens (bare_productText hleft hright) (ofText_productText hleft hright functions)
    (list?_productText hleft hright), run_product (readOperand_name ha) (readOperand_name hb)]

end Variables

/-! ## The rounds of a repetition -/

/-- The operands of a repetition, in either order. -/
inductive RepetitionOf (s : Value) (n : Int) : Value → Value → Prop
  | behind : RepetitionOf s n s (.int n)
  | before : RepetitionOf s n (.int n) s

/-- The outcome of a repetition of a sequence. -/
def repetition (s : Value) (n : Int) : Except EvalError Value :=
  if s.length * n.toNat ≤ Operator.sequenceCap then .ok (s.repeated n.toNat)
  else .error .sequenceTooLarge

theorem RepetitionOf.apply_eq {s a b : Value} {n : Int} (h : RepetitionOf s n a b)
    (hs : s.IsSequence) : Operator.multiply.apply a b = (repetition s n).mapError .error := by
  have hbehind : Operator.multiply.apply s (.int n) = (repetition s n).mapError .error := by
    rw [hs.apply_multiply, Value.within, repetition]
    split <;> rfl
  cases h with
  | behind => exact hbehind
  | before => exact (hs.multiply_comm n).trans hbehind

section Rounds

variable {s : Value} {n : Int}

theorem repetition_eq_error_iff :
    repetition s n = .error .sequenceTooLarge ↔ Operator.sequenceCap < s.length * n.toNat := by
  unfold repetition
  split
  · exact ⟨nofun, fun hlt => absurd hlt (Nat.not_lt.2 ‹_›)⟩
  · exact ⟨fun _ => Nat.not_le.1 ‹_›, fun _ => rfl⟩

theorem le_of_repetition_eq_ok {value : Value} (h : repetition s n = .ok value) :
    s.length * n.toNat ≤ Operator.sequenceCap ∧ value = s.repeated n.toNat := by
  unfold repetition at h
  split at h
  · exact ⟨‹_›, (Except.ok.inj h).symm⟩
  · cases h

theorem toNat_le_of_repetition_eq_ok (hlength : 0 < s.length) {value : Value}
    (h : repetition s n = .ok value) : n.toNat ≤ Operator.sequenceCap :=
  (Nat.le_mul_of_pos_left n.toNat hlength).trans (le_of_repetition_eq_ok h).1

theorem repetition_eq_error_of_lt (hlength : 0 < s.length)
    (h : Operator.sequenceCap < n.toNat) : repetition s n = .error .sequenceTooLarge :=
  repetition_eq_error_iff.2 (h.trans_le (Nat.le_mul_of_pos_left n.toNat hlength))

theorem repetition_of_length_eq_zero (hs : s.IsSequence) (hempty : s.length = 0) :
    repetition s n = .ok s := by
  rw [repetition, hempty, Nat.zero_mul, if_pos (Nat.zero_le _),
    hs.repeated_of_length_eq_zero hempty]

end Rounds

/-- **Bounded repetition.** A repetition makes one round for each copy, and none for a negative
number of them. It is refused where the length of all copies would exceed the limit. For a sequence
with items the rounds of a repetition that succeeds stay within the limit as well, and any larger
number of copies is refused. An empty sequence stays what it is, and is never refused, so that
nothing limits its rounds. -/
theorem repetition_bounded {s a b : Value} {n : Int} (hs : s.IsSequence)
    (h : RepetitionOf s n a b) :
    ∃ outcome : Except EvalError Value,
      Operator.multiply.apply a b = outcome.mapError .error ∧
      (∀ (functions : Functions) (nesting calls : Nat) (env : Environment) (left right : Text),
        IsName left → IsName right → env.find? left = some a → env.find? right = some b →
        evaluate functions (nesting + 1) calls env (productText left right) = outcome) ∧
      (s.rounds n.toNat : Int) = max n 0 ∧
      (0 < s.length →
        (∀ value, outcome = .ok value → s.rounds n.toNat ≤ Operator.sequenceCap) ∧
        (Operator.sequenceCap < n.toNat → outcome = .error .sequenceTooLarge)) ∧
      (outcome = .error .sequenceTooLarge ↔ Operator.sequenceCap < s.length * n.toNat) ∧
      (∀ value, outcome = .ok value →
        value = s.repeated n.toNat ∧ value.length = s.length * n.toNat) ∧
      (s.length = 0 → outcome = .ok s) := by
  have hrounds : s.rounds n.toNat = n.toNat := hs.rounds_eq n.toNat
  refine ⟨repetition s n, h.apply_eq hs, ?evaluated, ?rounds, ?bound, repetition_eq_error_iff,
    ?copies, repetition_of_length_eq_zero hs⟩
  case evaluated =>
    intro functions nesting calls env left right hleft hright ha hb
    rw [evaluate_productText hleft hright ha hb, h.apply_eq hs]
    cases repetition s n <;> rfl
  case rounds =>
    rw [hrounds]
    exact Int.ofNat_toNat n
  case bound =>
    rw [hrounds]
    exact fun hlength => ⟨fun _ => toNat_le_of_repetition_eq_ok hlength,
      repetition_eq_error_of_lt hlength⟩
  case copies =>
    intro value hvalue
    obtain ⟨-, rfl⟩ := le_of_repetition_eq_ok hvalue
    exact ⟨rfl, hs.length_repeated n.toNat⟩

/-- Three copies of two letters, made in three rounds. -/
theorem repetition_bounded_of_letters :
    let s : Value := .str "ab".toList
    let env : Environment := [("s".toList, s), ("n".toList, .int 3)]
    s.IsSequence ∧ RepetitionOf s 3 s (.int 3) ∧
      evaluate [] 1 0 env "s * n".toList = .ok (.str "ababab".toList) ∧
      (s.rounds 3 : Int) = 3 ∧ s.rounds 3 ≤ Operator.sequenceCap := by
  intro s env
  have hs : s.IsSequence := .str _
  have hoperands : RepetitionOf s 3 s (.int 3) := .behind
  obtain ⟨outcome, hproduct, hevaluated, hrounds, hbound, -⟩ := repetition_bounded hs hoperands
  have houtcome : outcome = .ok (.str "ababab".toList) := by
    cases outcome with
    | ok value => exact congrArg Except.ok (Except.ok.inj hproduct).symm
    | error cause => cases hproduct
  refine ⟨hs, hoperands, ?_, hrounds, (hbound (by decide)).1 _ houtcome⟩
  rw [← houtcome]
  exact hevaluated [] 0 0 env ['s'] ['n'] (isName_letter (by decide)) (isName_letter (by decide))
    rfl rfl

theorem list?_emptyTimesMost :
    Token.list? "'' * 9223372036854775807".toList =
      some [.literal (.str []), .operator .multiply, .literal (.int 9223372036854775807)] := by
  have hempty : Token.list? "''".toList = some [.literal (.str [])] := by
    have hread : Token.read? "''".toList = some (.literal (.str []), []) := rfl
    rw [list?_of_read? (by decide) hread, list?_nil]
    rfl
  have hmost : Token.list? "9223372036854775807".toList =
      some [.literal (.int 9223372036854775807)] := by
    have hread : Token.read? "9223372036854775807".toList =
        some (.literal (.int 9223372036854775807), []) :=
      read?_decimalDigits_append (n := 9223372036854775807) (by decide) (by decide)
    rw [list?_of_read? (by decide) hread, list?_nil]
    rfl
  have hspace : Text.isBlankText [' '] = true := rfl
  exact list?_joined .times hempty hmost hspace hspace

/-- An empty text is repeated as often as an integer can say, with a round for each copy. -/
theorem empty_repetition_allowed :
    let times : Int := 9223372036854775807
    let env : Environment := [("s".toList, .str []), ("n".toList, .int times)]
    inWord times = true ∧ Operator.sequenceCap < times.toNat ∧
      Operator.multiply.apply (.str []) (.int times) = .ok (.str []) ∧
      Operator.multiply.apply (.int times) (.str []) = .ok (.str []) ∧
      evaluate [] 1 0 env "s * n".toList = .ok (.str []) ∧
      evaluate [] 1 0 [] "'' * 9223372036854775807".toList = .ok (.str []) ∧
      (Value.str []).rounds times.toNat = 9223372036854775807 := by
  intro times env
  have hempty : (Value.str []).IsSequence := .str []
  have hproduct : Operator.multiply.apply (.str []) (.int times) = .ok (.str []) := by
    rw [hempty.apply_multiply, hempty.repeated_of_length_eq_zero rfl, Value.within,
      if_pos (by decide)]
  refine ⟨by decide, by decide, hproduct, ?reversed, ?named, ?written, hempty.rounds_eq _⟩
  case reversed => rw [hempty.multiply_comm, hproduct]
  case named =>
    show evaluate [] 1 0 env (productText ['s'] ['n']) = _
    rw [evaluate_productText (isName_letter (by decide)) (isName_letter (by decide)) (a := .str [])
      (b := .int times) rfl rfl, hproduct]
    rfl
  case written =>
    refine evaluate_of_arithmetic rfl (fun call => ?_) 0
    show Arithmetic.evaluate _ "'' * 9223372036854775807".toList = _
    rw [Arithmetic.evaluate, list?_emptyTimesMost]
    dsimp only
    rw [run_product (fun _ => rfl) (fun _ => rfl), hproduct]

end DryRun
