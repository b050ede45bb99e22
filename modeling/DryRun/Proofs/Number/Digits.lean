import Mathlib.Tactic.IntervalCases
import DryRun.Number.Reading
import DryRun.Proofs.Unicode.Ascii

/-!
# Digits

Numbers are read as they are written: the digits of a natural number have it as their value, and a
digit belongs to no other class of characters.
-/

namespace DryRun

open Unicode

/-! ## Characters -/

/-- What holds of the ten digits holds of every digit. -/
theorem forall_isDigit {p : Char → Prop} [DecidablePred p]
    (hp : ("0123456789".toList.all fun c => p c) = true) {c : Char} (h : c.isDigit = true) :
    p c := by
  refine of_decide_eq_true (List.all_eq_true.1 hp c ?_)
  rw [Char.isDigit, Bool.and_eq_true, decide_eq_true_eq, decide_eq_true_eq] at h
  have hge : 48 ≤ c.toNat := h.1
  have hle : c.toNat ≤ 57 := h.2
  rw [← Char.ofNat_toNat c]
  interval_cases c.toNat <;> decide

/-! ## Numerals -/

theorem isDigit_of_mem_decimalDigits {n : Nat} {c : Char} (h : c ∈ decimalDigits n) :
    c.isDigit = true :=
  Nat.isDigit_of_mem_toDigits (by omega) (le_refl 10) h

theorem decimalDigits_ne_nil (n : Nat) : decimalDigits n ≠ [] := Nat.toDigits_ne_nil

theorem digitsValue_decimalDigits (n : Nat) : digitsValue (decimalDigits n) = n := by
  have hvalue : digitsValue (decimalDigits n) = Nat.ofDigitChars 10 (decimalDigits n) 0 := by
    rw [Nat.ofDigitChars_eq_foldl]
    unfold digitsValue
    congr 1
    funext value c
    rw [Nat.mul_comm]
  rw [hvalue]
  exact Nat.ofDigitChars_ten_toDigits

@[simp] theorem readNatural?_decimalDigits (n : Nat) : readNatural? (decimalDigits n) = some n := by
  have hall : (decimalDigits n).all Char.isDigit = true :=
    List.all_eq_true.2 fun _ hc => isDigit_of_mem_decimalDigits hc
  unfold readNatural?
  rw [hall, digitsValue_decimalDigits]
  simp [decimalDigits_ne_nil]

/-- A numeral has no underscores to leave out. -/
theorem filter_decimalDigits (n : Nat) :
    (decimalDigits n).filter (· != '_') = decimalDigits n := by
  rw [List.filter_eq_self]
  intro c hc
  exact forall_isDigit (p := fun c => (c != '_') = true) (by decide)
    (isDigit_of_mem_decimalDigits hc)

theorem lt_pow_digitCount (n : Nat) : n < 10 ^ Decimal.digitCount n :=
  (Nat.length_toDigits_le_iff (by omega) Nat.length_toDigits_pos).1 le_rfl

theorem pow_digitCount_le {n : Nat} (h : 0 < n) : 10 ^ (Decimal.digitCount n - 1) ≤ n := by
  by_cases hone : Decimal.digitCount n - 1 = 0
  · rw [hone]
    exact h
  · rw [← Nat.not_lt, ← Nat.length_toDigits_le_iff (by omega) (Nat.pos_of_ne_zero hone)]
    unfold Decimal.digitCount at hone ⊢
    omega

/-! ## Integers -/

theorem integerText_of_nonneg (n : Nat) : integerText n = decimalDigits n := by
  have hsign : ¬ (n : Int) < 0 := by omega
  simp [integerText, signText, hsign]

theorem integerText_of_neg {n : Nat} (h : 0 < n) :
    integerText (-(n : Int)) = '-' :: decimalDigits n := by
  simp [integerText, signText, h]

theorem eq_or_isDigit_of_mem_integerText {n : Int} {c : Char} (h : c ∈ integerText n) :
    c = '-' ∨ c.isDigit = true := by
  rcases List.mem_append.1 h with h | h
  · left
    unfold signText at h
    split at h
    · exact List.mem_singleton.1 h
    · cases h
  · exact Or.inr (isDigit_of_mem_decimalDigits h)

/-- What holds of the minus sign and of the ten digits holds all over an integer. -/
theorem forall_mem_integerText {p : Char → Prop} [DecidablePred p]
    (hp : ("-0123456789".toList.all fun c => p c) = true) {n : Int} {c : Char}
    (h : c ∈ integerText n) : p c := by
  have hparts : (decide (p '-') && "0123456789".toList.all fun c => p c) = true := hp
  rw [Bool.and_eq_true] at hparts
  rcases eq_or_isDigit_of_mem_integerText h with rfl | h
  · exact of_decide_eq_true hparts.1
  · exact forall_isDigit hparts.2 h

theorem integerText_ne_nil (n : Int) : integerText n ≠ [] := by
  unfold integerText
  simp [decimalDigits_ne_nil]

end DryRun
