import DryRun.Proofs.Number.Numeral

/-!
# Whole numbers by way of floats

A natural number that is read as a float and cut to a whole number again has lost all but 53 of its
bits: `wordOfFloat_floatOfDecimal` says which number of 64 bits it has become, and
`min_toPrecision_eq_iff` which numbers it leaves as they are.
-/

namespace DryRun

open Binary

/-! ## Rounding -/

/-- A ratio is rounded to the nearest natural number, a half to the even side. -/
theorem roundsTo_roundRatio (numerator : Nat) {denominator : Nat} (h : 0 < denominator) :
    RoundsTo (numerator / denominator) (roundRatio .even numerator denominator) := by
  obtain ⟨hlow, hhigh⟩ := Decimal.roundRatio_bounds .even numerator h
  refine ⟨by linarith, by linarith, ?_⟩
  have hmod := Nat.mod_lt numerator h
  rw [ratio_eq numerator h]
  unfold roundRatio
  dsimp only
  generalize numerator / denominator = quotient at *
  generalize numerator % denominator = rest at *
  obtain ⟨hnonneg, hlt⟩ := fraction_bounds h hmod
  split
  · rename_i hbelow
    have hhalf := (fraction_lt_half_iff h).2 hbelow
    intro _
    constructor <;> linarith
  · split
    · rename_i habove
      have hhalf := (half_lt_fraction_iff h).2 habove
      intro _
      push_cast
      constructor <;> linarith
    · -- A number in the middle is rounded to an even one.
      intro hodd
      omega

/-- The natural number of at most 53 bits and zeros that is nearest to a natural number. -/
def toPrecision (n : Nat) : Nat := roundRatio .even n (2 ^ (n.log2 - 52)) * 2 ^ (n.log2 - 52)

theorem toPrecision_of_lt {n : Nat} (h : n < 2 ^ 53) : toPrecision n = n := by
  rcases Nat.eq_zero_or_pos n with rfl | hpos
  · decide
  · have hlog : n.log2 < 53 := (Nat.log2_lt hpos.ne').2 h
    unfold toPrecision roundRatio
    rw [Nat.sub_eq_zero_of_le (by omega), pow_zero, Nat.mod_one]
    simp

/-! ## Floats -/

/-- A number is rounded up by at most the gap to the next float below; to the least mantissa of full
length, which has a smaller gap, no number of full length is rounded up. -/
theorem sub_lowerGap_le_of_roundsTo {x : ℚ} {rounded : Nat} (h : RoundsTo x rounded)
    (hlow : 2 ^ 52 ≤ x) (exponent : Int) : (rounded : ℚ) - lowerGap rounded exponent ≤ x := by
  unfold lowerGap
  split
  · rename_i hfull
    rw [hfull.1]
    push_cast
    linarith
  · exact h.low

theorem nearest_of_roundsTo {x : ℚ} {rounded : Nat} (h : RoundsTo x rounded) (hlow : 2 ^ 52 ≤ x)
    (exponent : Int) : Nearest rounded exponent (x * 2 ^ exponent) := by
  have hpow := two_zpow_pos exponent
  have hbelow := sub_lowerGap_le_of_roundsTo h hlow exponent
  refine ⟨mul_le_mul_of_nonneg_right hbelow hpow.le, mul_le_mul_of_nonneg_right h.high hpow.le,
    fun hodd => ?_⟩
  have hgap : lowerGap rounded exponent = 1 / 2 := if_neg fun hfull => by omega
  obtain ⟨hlow', hhigh'⟩ := h.inside hodd
  rw [hgap]
  exact ⟨mul_lt_mul_of_pos_right hlow' hpow, mul_lt_mul_of_pos_right hhigh' hpow⟩

/-- A number that is rounded up to `2 ^ 53` has a mantissa of one bit more, and so the least one at
the next exponent. -/
theorem nearest_of_roundsTo_two_pow {x : ℚ} (h : RoundsTo x (2 ^ 53)) (hhigh : x < 2 ^ 53)
    (shift : Nat) : Nearest (2 ^ 52) (shift + 1 : Nat) (x * 2 ^ shift) := by
  have hpow : (0 : ℚ) < 2 ^ shift := pow_pos two_pos shift
  have htwice : (2 : ℚ) ^ ((shift + 1 : Nat) : Int) = 2 * 2 ^ shift := by
    rw [zpow_natCast, pow_succ, mul_comm]
  have hgap : lowerGap (2 ^ 52) ((shift + 1 : Nat) : Int) = 1 / 4 := if_pos ⟨rfl, by omega⟩
  have hlow := h.low
  push_cast at hlow
  refine ⟨?_, ?_, fun hodd => ?_⟩
  · rw [hgap, htwice, ← mul_assoc]
    push_cast
    exact mul_le_mul_of_nonneg_right (by linarith) hpow.le
  · rw [htwice, ← mul_assoc]
    push_cast
    exact mul_le_mul_of_nonneg_right (by linarith) hpow.le
  · norm_num at hodd

/-- A number that is rounded to a mantissa of full length has a nearest float. -/
theorem exists_nearest_of_roundsTo {x : ℚ} {rounded shift : Nat} (h : RoundsTo x rounded)
    (hlow : 2 ^ 52 ≤ x) (hhigh : x < 2 ^ 53) (hshift : shift ≤ 64) :
    ∃ mantissa exponent, Canonical mantissa exponent ∧ 0 < mantissa ∧
      Nearest mantissa exponent (x * 2 ^ shift) ∧
      (mantissa * 2 ^ exponent : ℚ) = (rounded * 2 ^ shift : Nat) := by
  have hleast : 2 ^ 52 ≤ rounded := by
    have := h.high
    refine le_of_cast_lt_succ ?_
    push_cast
    linarith
  have hmost : rounded ≤ 2 ^ 53 := by
    have := h.low
    refine le_of_cast_lt_succ ?_
    push_cast
    linarith
  rcases hmost.lt_or_eq with hlt | rfl
  · refine ⟨rounded, shift, ⟨hlt, by omega, by omega, Or.inl hleast⟩, by omega, ?_, ?_⟩
    · rw [← zpow_natCast]
      exact nearest_of_roundsTo h hlow shift
    · push_cast
      rw [zpow_natCast]
  · refine ⟨2 ^ 52, (shift + 1 : Nat), ⟨by norm_num, by omega, by omega, Or.inl le_rfl⟩,
      by norm_num, nearest_of_roundsTo_two_pow h hhigh shift, ?_⟩
    rw [zpow_natCast]
    push_cast
    ring

/-- The nearest float to a natural number of 64 bits. -/
theorem exists_nearest_toPrecision {n : Nat} (hpos : 0 < n) (hle : n ≤ wordCap) :
    ∃ mantissa exponent, Canonical mantissa exponent ∧ 0 < mantissa ∧
      Nearest mantissa exponent n ∧ (mantissa * 2 ^ exponent : ℚ) = toPrecision n := by
  by_cases hlt : n < 2 ^ 53
  · have hvalue := scaled_mul_two_zpow hlt hpos
    refine ⟨_, _, canonical_scaled hpos hlt, Nat.mul_pos hpos (Nat.two_pow_pos _), ?_, ?_⟩
    · have hself := nearest_self (n * 2 ^ (52 - n.log2)) ((n.log2 : Int) - 52)
      rwa [hvalue] at hself
    · rw [toPrecision_of_lt hlt, hvalue]
  · have hlog : 53 ≤ n.log2 := (Nat.le_log2 hpos.ne').2 (Nat.not_lt.1 hlt)
    have hlog' : n.log2 < 64 :=
      (Nat.log2_lt hpos.ne').2 (hle.trans_lt (Nat.sub_lt (Nat.two_pow_pos 64) one_pos))
    have hsum : n.log2 = 52 + (n.log2 - 52) := by omega
    have hpow : (0 : ℚ) < 2 ^ (n.log2 - 52) := pow_pos two_pos _
    have hround := roundsTo_roundRatio n (Nat.two_pow_pos (n.log2 - 52))
    rw [Nat.cast_pow, Nat.cast_two] at hround
    have hlow : (2 : ℚ) ^ 52 ≤ n / 2 ^ (n.log2 - 52) := by
      rw [le_div_iff₀ hpow, ← pow_add, ← hsum]
      exact_mod_cast Nat.log2_self_le hpos.ne'
    have hhigh : (n : ℚ) / 2 ^ (n.log2 - 52) < 2 ^ 53 := by
      have hsum' : 53 + (n.log2 - 52) = n.log2 + 1 := by omega
      rw [div_lt_iff₀ hpow, ← pow_add, hsum']
      exact_mod_cast Nat.lt_log2_self
    have hshift : n.log2 - 52 ≤ 64 := by omega
    obtain ⟨mantissa, exponent, hcanonical, hmantissa, hnearest, hvalue⟩ :=
      exists_nearest_of_roundsTo hround hlow hhigh hshift
    rw [div_mul_cancel₀ _ hpow.ne'] at hnearest
    exact ⟨mantissa, exponent, hcanonical, hmantissa, hnearest, hvalue⟩

/-- A float that stands for a natural number is cut to it, or to the largest number of 64 bits. -/
theorem wordOfFloat_of_ofFloat {x : Float} {mantissa n : Nat} {exponent : Int}
    (hx : ofFloat x = finite false mantissa exponent) (h : (mantissa * 2 ^ exponent : ℚ) = n) :
    wordOfFloat x = min n wordCap := by
  have hden := Decimal.powerRatio_snd_pos exponent 0
  have hscaled : mantissa * (powerRatio exponent 0).1 = n * (powerRatio exponent 0).2 := by
    have hratio := Decimal.powerRatio_eq exponent 0
    rw [zpow_zero, mul_one] at hratio
    have : (mantissa * (powerRatio exponent 0).1 : ℚ) = n * (powerRatio exponent 0).2 := by
      rw [hratio, ← mul_assoc, h]
    exact_mod_cast this
  have hquotient : mantissa * (powerRatio exponent 0).1 / (powerRatio exponent 0).2 = n := by
    rw [hscaled]
    exact Nat.mul_div_cancel _ (by exact_mod_cast hden)
  unfold wordOfFloat
  rw [hx]
  show Nat.min (mantissa * (powerRatio exponent 0).1 / (powerRatio exponent 0).2) wordCap = _
  rw [hquotient]

/-- A number of 64 bits is read as a finite float, which stands for a number of 53 bits. -/
theorem exists_ofFloat_floatOfDecimal {n : Nat} (hle : n ≤ wordCap) :
    ∃ mantissa exponent, ofFloat (floatOfDecimal false n 0) = finite false mantissa exponent ∧
      (mantissa * 2 ^ exponent : ℚ) = toPrecision n := by
  rcases Nat.eq_zero_or_pos n with rfl | hpos
  · refine ⟨0, -1074, ofFloat_floatOfDecimal_zero false 0, ?_⟩
    rw [toPrecision_of_lt (by decide), Nat.cast_zero, zero_mul]
  · obtain ⟨mantissa, exponent, hcanonical, hmantissa, hnearest, hvalue⟩ :=
      exists_nearest_toPrecision hpos hle
    refine ⟨mantissa, exponent, ofFloat_floatOfDecimal hcanonical hmantissa ?_ false, hvalue⟩
    rwa [zpow_zero, mul_one]

/-- **A number of 64 bits that is read as a float keeps 53 of its bits.** -/
theorem wordOfFloat_floatOfDecimal {n : Nat} (hle : n ≤ wordCap) :
    wordOfFloat (floatOfDecimal false n 0) = min (toPrecision n) wordCap := by
  obtain ⟨mantissa, exponent, hx, hvalue⟩ := exists_ofFloat_floatOfDecimal hle
  exact wordOfFloat_of_ofFloat hx hvalue

theorem toPrecision_eq_iff (n : Nat) : toPrecision n = n ↔ n % 2 ^ (n.log2 - 52) = 0 := by
  unfold toPrecision
  constructor
  · intro h
    exact Nat.mod_eq_zero_of_dvd (Dvd.intro_left _ h)
  · intro h
    have hround : roundRatio .even n (2 ^ (n.log2 - 52)) = n / 2 ^ (n.log2 - 52) := by
      unfold roundRatio
      dsimp only
      rw [h, if_pos (Nat.two_pow_pos _)]
    rw [hround]
    exact Nat.div_mul_cancel (Nat.dvd_of_mod_eq_zero h)

/-- The numbers that are read back are those of 53 bits and zeros, and the largest one. -/
theorem min_toPrecision_eq_iff {n : Nat} (hle : n ≤ wordCap) :
    min (toPrecision n) wordCap = n ↔ n % 2 ^ (n.log2 - 52) = 0 ∨ n = wordCap := by
  rw [← toPrecision_eq_iff]
  constructor
  · intro h
    rcases Nat.le_total (toPrecision n) wordCap with hcap | hcap
    · exact Or.inl (by rwa [Nat.min_eq_left hcap] at h)
    · exact Or.inr (by rw [← h, Nat.min_eq_right hcap])
  · rintro (h | rfl)
    · rw [h, Nat.min_eq_left hle]
    · decide

end DryRun
