import Mathlib.Algebra.Order.Field.Basic
import Mathlib.Algebra.Order.Field.Rat
import Mathlib.Algebra.Order.Field.Power
import Mathlib.Tactic.FieldSimp
import Mathlib.Tactic.Linarith
import Mathlib.Tactic.NormNum
import DryRun.Proofs.Number.Bits

/-!
# Rounding to floats

A mantissa with residual bits stands for a number (`Represents`), also after it has been shifted. So
when it is cut to the bits of a float, the result is the float that is nearest to the number
(`roundWithAccuracy_eq`), whichever exponent it was rounded for.
-/

namespace DryRun

namespace Binary

open Float.Model Float.Model.UnpackedFloat

/-! ## Ratios -/

theorem le_of_cast_lt_succ {m n : Nat} (h : (m : ℚ) < n + 1) : m ≤ n :=
  Nat.lt_succ_iff.1 (by exact_mod_cast h)

/-- A ratio is its whole part and a fraction. -/
theorem ratio_eq (numerator : Nat) {denominator : Nat} (h : 0 < denominator) :
    (numerator / denominator : ℚ) =
      (numerator / denominator : Nat) + (numerator % denominator : Nat) / denominator := by
  have hden : (0 : ℚ) < denominator := by exact_mod_cast h
  have hparts : (numerator : ℚ) =
      denominator * (numerator / denominator : Nat) + (numerator % denominator : Nat) := by
    exact_mod_cast (Nat.div_add_mod numerator denominator).symm
  generalize numerator / denominator = quotient at *
  rw [hparts]
  field_simp

section Fractions

variable {rest denominator : Nat} (h : 0 < denominator)

include h

theorem fraction_bounds (hrest : rest < denominator) :
    (0 : ℚ) ≤ rest / denominator ∧ (rest / denominator : ℚ) < 1 := by
  have hden : (0 : ℚ) < denominator := by exact_mod_cast h
  rw [div_lt_one hden]
  exact ⟨by positivity, by exact_mod_cast hrest⟩

theorem fraction_lt_half_iff : (rest / denominator : ℚ) < 1 / 2 ↔ 2 * rest < denominator := by
  have hden : (0 : ℚ) < denominator := by exact_mod_cast h
  rw [div_lt_div_iff₀ hden two_pos, one_mul, mul_comm]
  exact_mod_cast Iff.rfl

theorem half_lt_fraction_iff : 1 / 2 < (rest / denominator : ℚ) ↔ denominator < 2 * rest := by
  have hden : (0 : ℚ) < denominator := by exact_mod_cast h
  rw [div_lt_div_iff₀ two_pos hden, one_mul, mul_comm]
  exact_mod_cast Iff.rfl

end Fractions

/-! ## Mantissas with residual bits -/

/-- Whether a mantissa and its residual bits stand for a number: they tell on which side of the
middle between the mantissa and the next one it is. -/
def Represents (em : ExtendedMantissa) (x : ℚ) : Prop :=
  match em.roundBit, em.stickyBit with
  | false, false => x = em.mantissa
  | false, true => em.mantissa < x ∧ x < em.mantissa + 1 / 2
  | true, false => x = em.mantissa + 1 / 2
  | true, true => em.mantissa + 1 / 2 < x ∧ x < em.mantissa + 1

/-- Whether a number is rounded to a natural number, a half to the even side. -/
structure RoundsTo (x : ℚ) (n : Nat) : Prop where
  low : n - 1 / 2 ≤ x
  high : x ≤ n + 1 / 2
  inside : n % 2 = 1 → n - 1 / 2 < x ∧ x < n + 1 / 2

namespace Represents

variable {em : ExtendedMantissa} {x : ℚ}

theorem bounds (h : Represents em x) : (em.mantissa : ℚ) ≤ x ∧ x < em.mantissa + 1 := by
  obtain ⟨m, round, sticky⟩ := em
  cases round <;> cases sticky <;> simp only [Represents] at h
  · constructor <;> linarith
  · constructor <;> linarith
  · constructor <;> linarith
  · constructor <;> linarith

theorem shiftRightOne (h : Represents em x) : Represents em.shiftRightOne (x / 2) := by
  obtain ⟨m, round, sticky⟩ := em
  have hparts : ((m % 2 : Nat) : ℚ) + 2 * ((m / 2 : Nat) : ℚ) = m := by
    exact_mod_cast Nat.mod_add_div m 2
  unfold Represents ExtendedMantissa.shiftRightOne
  rcases Nat.mod_two_eq_zero_or_one m with hbit | hbit
  · rw [hbit, Nat.cast_zero] at hparts
    cases round <;> cases sticky <;>
      simp only [Represents, hbit, bne_self_eq_false, Bool.or_true, Bool.or_false] at h ⊢
    · linarith
    · constructor <;> linarith
    · constructor <;> linarith
    · constructor <;> linarith
  · rw [hbit, Nat.cast_one] at hparts
    cases round <;> cases sticky <;>
      simp only [Represents, hbit, Nat.reduceBNe, Bool.or_true, Bool.or_false] at h ⊢
    · linarith
    · constructor <;> linarith
    · constructor <;> linarith
    · constructor <;> linarith

theorem shiftRight (h : Represents em x) (n : Nat) : Represents (em >>> n) (x / 2 ^ n) := by
  show Represents (n.repeat ExtendedMantissa.shiftRightOne em) _
  induction n with
  | zero => simpa [Nat.repeat] using h
  | succ n ih =>
    rw [Nat.repeat, pow_succ, ← div_div]
    exact ih.shiftRightOne

/-- The mantissa is rounded as the number is. -/
theorem roundedMantissa_eq (h : Represents em x) {n : Nat} (hx : RoundsTo x n) :
    em.roundedMantissa = n := by
  obtain ⟨m, round, sticky⟩ := em
  obtain ⟨hlow, hhigh, hinside⟩ := hx
  cases round <;> cases sticky <;> simp only [Represents] at h <;>
    simp only [ExtendedMantissa.roundedMantissa, ExtendedMantissa.accuracy,
      Accuracy.roundToNearestEven]
  · exact (le_of_cast_lt_succ (by linarith)).antisymm (le_of_cast_lt_succ (by linarith))
  · exact (le_of_cast_lt_succ (by linarith)).antisymm (le_of_cast_lt_succ (by linarith))
  · -- Of the two numbers around a half the even one is meant.
    have hle : m ≤ n := le_of_cast_lt_succ (by linarith)
    have hge : n ≤ m + 1 := le_of_cast_lt_succ (by push_cast; linarith)
    have heven : n % 2 = 0 := by
      by_contra hodd
      have hstrict := hinside (by omega)
      have hlt : m < n := by exact_mod_cast (by linarith [hstrict.2] : (m : ℚ) < n)
      have hgt : n < m + 1 := by exact_mod_cast (by linarith [hstrict.1] : (n : ℚ) < m + 1)
      omega
    omega
  · have hle : m + 1 ≤ n := le_of_cast_lt_succ (by push_cast; linarith)
    exact hle.antisymm (le_of_cast_lt_succ (by push_cast; linarith))

end Represents

theorem represents_exact (mantissa : Nat) :
    Represents (ExtendedMantissa.ofMantissaAndAccuracy mantissa .exact) mantissa := rfl

/-- The quotient of two natural numbers with the place of its fraction. -/
theorem represents_fraction (numerator : Nat) {denominator : Nat} (h : 0 < denominator) :
    Represents (ExtendedMantissa.ofMantissaAndAccuracy (numerator / denominator)
        (accuracyOfFraction (numerator % denominator) denominator))
      (numerator / denominator) := by
  have hmod := Nat.mod_lt numerator h
  rw [ratio_eq numerator h]
  generalize numerator / denominator = quotient at *
  generalize numerator % denominator = rest at *
  have hlt := (fraction_bounds h hmod).2
  unfold accuracyOfFraction
  by_cases hzero : rest = 0
  · rw [if_pos hzero, hzero, Nat.cast_zero, zero_div, add_zero]
    exact represents_exact quotient
  · have hpos : (0 : ℚ) < rest / denominator :=
      div_pos (by exact_mod_cast Nat.pos_of_ne_zero hzero) (by exact_mod_cast h)
    rw [if_neg hzero]
    rcases Nat.lt_trichotomy (2 * rest) denominator with hhalf | hhalf | hhalf
    · rw [Nat.compare_eq_lt.2 hhalf]
      have hbelow := (fraction_lt_half_iff h).2 hhalf
      show (quotient : ℚ) < _ ∧ _ < (quotient : ℚ) + 1 / 2
      constructor <;> linarith
    · rw [Nat.compare_eq_eq.2 hhalf]
      have hbelow := mt (half_lt_fraction_iff h).1 hhalf.not_gt
      have habove := mt (fraction_lt_half_iff h).1 hhalf.not_lt
      show _ = (quotient : ℚ) + 1 / 2
      linarith
    · rw [Nat.compare_eq_gt.2 hhalf]
      have habove := (half_lt_fraction_iff h).2 hhalf
      show (quotient : ℚ) + 1 / 2 < _ ∧ _ < (quotient : ℚ) + 1
      constructor <;> linarith

/-! ## Exponents -/

/-- How far below its mantissa a float is still the nearest one; below a power of two the next
float is nearer. -/
def lowerGap (mantissa : Nat) (exponent : Int) : ℚ :=
  if mantissa = 2 ^ 52 ∧ -1074 < exponent then 1 / 4 else 1 / 2

/-- Whether the float of the given parts is the nearest one to a number; in the middle between two
floats the one with an even mantissa is. -/
structure Nearest (mantissa : Nat) (exponent : Int) (x : ℚ) : Prop where
  low : (mantissa - lowerGap mantissa exponent) * 2 ^ exponent ≤ x
  high : x ≤ (mantissa + 1 / 2) * 2 ^ exponent
  inside : mantissa % 2 = 1 →
    (mantissa - lowerGap mantissa exponent) * 2 ^ exponent < x ∧
      x < (mantissa + 1 / 2) * 2 ^ exponent

theorem lowerGap_le (mantissa : Nat) (exponent : Int) : lowerGap mantissa exponent ≤ 1 / 2 := by
  unfold lowerGap
  split
  · norm_num
  · exact le_rfl

theorem two_zpow_pos (n : Int) : (0 : ℚ) < 2 ^ n := zpow_pos two_pos n

theorem two_zpow_add (a b : Int) : (2 : ℚ) ^ (a + b) = 2 ^ a * 2 ^ b := zpow_add₀ two_ne_zero a b

theorem two_zpow_lt_iff {a b : Int} : (2 : ℚ) ^ a < 2 ^ b ↔ a < b :=
  zpow_lt_zpow_iff_right₀ one_lt_two

theorem two_zpow_le_iff {a b : Int} : (2 : ℚ) ^ a ≤ 2 ^ b ↔ a ≤ b :=
  zpow_le_zpow_iff_right₀ one_lt_two

/-- The exponent that a mantissa is rounded for. -/
def targetOf (mantissa : Nat) (exponent : Int) : Int := max (mantissa.log2 + exponent - 52) (-1074)

theorem targetExponent_eq (mantissa : Nat) (exponent : Int) :
    Format.binary64.targetExponent (totalExponent mantissa exponent) =
      targetOf mantissa exponent := by
  have hbits : (Format.mantissaBits Format.binary64 : Int) = 53 := rfl
  have hleast : Format.minExponent Format.binary64 = -1074 := by decide
  rw [Format.targetExponent, totalExponent, targetOf, hbits, hleast]
  congr 1
  omega

/-- Whether a mantissa has so many bits that rounding only drops some. -/
def IsFine (mantissa : Nat) (exponent : Int) : Prop := 52 ≤ mantissa.log2 ∨ exponent ≤ -1074

section Target

variable {mantissa : Nat} {exponent : Int} {accuracy : Accuracy} {x : ℚ}

theorem le_targetOf (hfine : IsFine mantissa exponent) : exponent ≤ targetOf mantissa exponent := by
  unfold IsFine at hfine
  unfold targetOf
  omega

theorem mantissa_ofMantissaAndAccuracy (mantissa : Nat) (accuracy : Accuracy) :
    (ExtendedMantissa.ofMantissaAndAccuracy mantissa accuracy).mantissa = mantissa := by
  unfold ExtendedMantissa.ofMantissaAndAccuracy
  split <;> rfl

theorem lt_of_represents
    (h : Represents (.ofMantissaAndAccuracy mantissa accuracy) (x / 2 ^ exponent)) :
    x < 2 ^ (targetOf mantissa exponent + 53) := by
  have hbounds := h.bounds
  rw [mantissa_ofMantissaAndAccuracy] at hbounds
  have hlog : (mantissa : ℚ) + 1 ≤ 2 ^ ((mantissa.log2 : Int) + 1) := by
    exact_mod_cast Nat.lt_log2_self (n := mantissa)
  have hx := (div_lt_iff₀ (two_zpow_pos exponent)).1 (hbounds.2.trans_le hlog)
  rw [← two_zpow_add] at hx
  refine hx.trans_le (two_zpow_le_iff.2 ?_)
  unfold targetOf
  omega

theorem le_of_represents (hfine : IsFine mantissa exponent)
    (h : Represents (.ofMantissaAndAccuracy mantissa accuracy) (x / 2 ^ exponent)) :
    2 ^ (targetOf mantissa exponent + 52) ≤ x ∨ targetOf mantissa exponent = -1074 := by
  have hbounds := h.bounds
  rw [mantissa_ofMantissaAndAccuracy] at hbounds
  by_cases hleast : targetOf mantissa exponent = -1074
  · exact Or.inr hleast
  · left
    unfold targetOf at hleast ⊢
    unfold IsFine at hfine
    have hzero : mantissa ≠ 0 := by
      rintro rfl
      rw [Nat.log2_zero] at *
      omega
    have hlog : (2 : ℚ) ^ (mantissa.log2 : Int) ≤ mantissa := by
      exact_mod_cast Nat.log2_self_le hzero
    have hx := (le_div_iff₀ (two_zpow_pos exponent)).1 (hlog.trans hbounds.1)
    rw [← two_zpow_add] at hx
    refine le_trans (two_zpow_le_iff.2 ?_) hx
    omega

end Target

section Nearest

variable {mantissa : Nat} {exponent : Int} {x : ℚ}

theorem Nearest.lt_two_zpow (hcanonical : Canonical mantissa exponent)
    (h : Nearest mantissa exponent x) : x < 2 ^ (exponent + 53) := by
  have hlt : (mantissa : ℚ) + 1 ≤ 2 ^ (53 : Int) := by exact_mod_cast hcanonical.lt_two_pow
  have hpos := two_zpow_pos exponent
  rw [add_comm, two_zpow_add]
  refine h.high.trans_lt (mul_lt_mul_of_pos_right ?_ hpos)
  linarith

theorem Nearest.two_zpow_le (h : Nearest mantissa exponent x) (hm : 2 ^ 52 < mantissa) :
    2 ^ (exponent + 52) ≤ x := by
  have hle : (2 : ℚ) ^ (52 : Int) + 1 ≤ mantissa := by exact_mod_cast hm
  have hgap := lowerGap_le mantissa exponent
  rw [add_comm, two_zpow_add]
  refine le_trans (mul_le_mul_of_nonneg_right ?_ (two_zpow_pos exponent).le) h.low
  linarith

theorem Nearest.two_zpow_le_of_eq (h : Nearest (2 ^ 52) exponent x) :
    2 ^ (exponent + 51) ≤ x := by
  have hgap := lowerGap_le (2 ^ 52) exponent
  have hhalf : (2 : ℚ) ^ (51 : Int) ≤ ((2 ^ 52 : Nat) : ℚ) - 1 / 2 := by norm_num
  rw [add_comm, two_zpow_add]
  refine le_trans (mul_le_mul_of_nonneg_right ?_ (two_zpow_pos exponent).le) h.low
  exact hhalf.trans (sub_le_sub_left hgap _)

/-- A number is rounded for the exponent of its nearest float, or for the one below if the number
lies below the power of two that this float is. -/
theorem Nearest.exponent_cases (hcanonical : Canonical mantissa exponent)
    (h : Nearest mantissa exponent x) {target : Int} (hleast : -1074 ≤ target)
    (hlt : x < 2 ^ (target + 53)) (hle : 2 ^ (target + 52) ≤ x ∨ target = -1074) :
    target = exponent ∨ (target = exponent - 1 ∧ mantissa = 2 ^ 52 ∧ -1074 < exponent) := by
  have hupper : target ≤ exponent := by
    rcases hle with hle | hle
    · have := two_zpow_lt_iff.1 (hle.trans_lt (h.lt_two_zpow hcanonical))
      omega
    · have := hcanonical.le_exponent
      omega
  rcases hcanonical.full with hfull | hleastExponent
  · rcases hfull.eq_or_lt with rfl | hm
    · have := two_zpow_lt_iff.1 (h.two_zpow_le_of_eq.trans_lt hlt)
      rcases eq_or_ne target exponent with heq | hne
      · exact Or.inl heq
      · exact Or.inr ⟨by omega, rfl, by omega⟩
    · have := two_zpow_lt_iff.1 ((h.two_zpow_le hm).trans_lt hlt)
      exact Or.inl (by omega)
  · exact Or.inl (by omega)

theorem Nearest.roundsTo (h : Nearest mantissa exponent x) :
    RoundsTo (x / 2 ^ exponent) mantissa := by
  have hpos := two_zpow_pos exponent
  have hgap := lowerGap_le mantissa exponent
  constructor
  · rw [le_div_iff₀ hpos]
    exact le_trans (mul_le_mul_of_nonneg_right (by linarith) hpos.le) h.low
  · rw [div_le_iff₀ hpos]
    exact h.high
  · intro hodd
    have hinside := h.inside hodd
    rw [lt_div_iff₀ hpos, div_lt_iff₀ hpos]
    exact ⟨lt_of_le_of_lt (mul_le_mul_of_nonneg_right (by linarith) hpos.le) hinside.1, hinside.2⟩

theorem Nearest.roundsTo_two_pow (h : Nearest (2 ^ 52) exponent x) (hexponent : -1074 < exponent)
    (hlt : x < 2 ^ (exponent - 1 + 53)) : RoundsTo (x / 2 ^ (exponent - 1)) (2 ^ 53) := by
  have hpos := two_zpow_pos (exponent - 1)
  have hlow := h.low
  have htwice : (2 : ℚ) ^ exponent = 2 * 2 ^ (exponent - 1) := by
    rw [← zpow_one_add₀ two_ne_zero]
    congr 1
    omega
  rw [lowerGap, if_pos ⟨rfl, hexponent⟩, htwice] at hlow
  constructor
  · rw [le_div_iff₀ hpos]
    push_cast at hlow ⊢
    linarith
  · rw [div_le_iff₀ hpos]
    rw [two_zpow_add] at hlt
    have hpow : ((2 ^ 53 : Nat) : ℚ) = 2 ^ (53 : Int) := by norm_num
    rw [hpow]
    nlinarith
  · intro hodd
    norm_num at hodd

end Nearest

/-! ## Rounding -/

theorem shiftToTargetExponent_eq (mantissa : Nat) (exponent : Int) (accuracy : Accuracy) :
    shiftToTargetExponent Format.binary64 mantissa exponent accuracy =
      (ExtendedMantissa.ofMantissaAndAccuracy mantissa accuracy >>>
          (targetOf mantissa exponent - exponent).toNat,
        exponent + (targetOf mantissa exponent - exponent).toNat) := by
  rw [← targetExponent_eq]
  rfl

theorem shift_exact {mantissa : Nat} {exponent : Int} (hlt : mantissa < 2 ^ 53)
    (hleast : -1074 ≤ exponent) :
    shiftToTargetExponent Format.binary64 mantissa exponent .exact =
      (⟨mantissa, false, false⟩, exponent) := by
  have hlog : mantissa.log2 ≤ 52 := by
    by_cases hzero : mantissa = 0
    · rw [hzero, Nat.log2_zero]
      omega
    · exact Nat.lt_succ_iff.1 ((Nat.log2_lt hzero).2 hlt)
  have hshift : (targetOf mantissa exponent - exponent).toNat = 0 := by
    unfold targetOf
    omega
  rw [shiftToTargetExponent_eq, hshift, Int.natCast_zero, Int.add_zero]
  rfl

theorem shift_two_pow {exponent : Int} (hleast : -1074 ≤ exponent) :
    shiftToTargetExponent Format.binary64 (2 ^ 53) exponent .exact =
      (⟨2 ^ 52, false, false⟩, exponent + 1) := by
  have hshift : (targetOf (2 ^ 53) exponent - exponent).toNat = 1 := by
    unfold targetOf
    rw [Nat.log2_two_pow]
    omega
  rw [shiftToTargetExponent_eq, hshift]
  rfl

/-- **A number is rounded to the float that is nearest to it.** -/
theorem roundWithAccuracy_eq {mantissa mantissa' : Nat} {exponent exponent' : Int}
    {accuracy : Accuracy} {x : ℚ} (hfine : IsFine mantissa exponent)
    (h : Represents (.ofMantissaAndAccuracy mantissa accuracy) (x / 2 ^ exponent))
    (hcanonical : Canonical mantissa' exponent') (hpos : 0 < mantissa')
    (hnearest : Nearest mantissa' exponent' x) (sign : Sign) :
    roundWithAccuracy Format.binary64 sign mantissa exponent accuracy =
      .finite sign mantissa' exponent' hpos := by
  have hle := le_targetOf hfine
  have hleast : -1074 ≤ targetOf mantissa exponent := le_max_right _ _
  have hlt := lt_of_represents h
  have hcases := hnearest.exponent_cases hcanonical hleast hlt (le_of_represents hfine h)
  have hshifted := h.shiftRight (targetOf mantissa exponent - exponent).toNat
  have hexponent : exponent + (targetOf mantissa exponent - exponent).toNat =
      targetOf mantissa exponent := by omega
  rw [div_div, ← zpow_natCast, ← two_zpow_add, hexponent] at hshifted
  unfold roundWithAccuracy
  rw [shiftToTargetExponent_eq, hexponent]
  dsimp only
  generalize ExtendedMantissa.ofMantissaAndAccuracy mantissa accuracy >>>
    (targetOf mantissa exponent - exponent).toNat = em at hshifted ⊢
  generalize targetOf mantissa exponent = target at hshifted hcases hlt hleast ⊢
  rcases hcases with rfl | ⟨rfl, rfl, hgt⟩
  · rw [hshifted.roundedMantissa_eq hnearest.roundsTo,
      shift_exact hcanonical.lt_two_pow hcanonical.le_exponent, dif_neg hpos.ne']
  · rw [hshifted.roundedMantissa_eq (hnearest.roundsTo_two_pow hgt hlt), shift_two_pow hleast,
      dif_neg hpos.ne']
    exact unpacked_congr rfl (by omega) _ _

end Binary

end DryRun
