import DryRun.Proofs.Number.Digits
import DryRun.Proofs.Number.Rounding

/-!
# Floats of decimals

A decimal is read as the float that is nearest to it (`ofFloat_floatOfDecimal`): one with few digits
and places as the product or quotient of two floats that are exact, any other as the exact product
or quotient of its digits and its power of ten, rounded once.
-/

namespace DryRun

namespace Binary

open Float.Model Float.Model.UnpackedFloat

/-! ## Products and quotients -/

section Operations

variable {mantissa mantissa' result : Nat} {exponent exponent' target : Int}

theorem mul_eq (hm : 0 < mantissa) (hm' : 0 < mantissa') (hfine : 52 ≤ (mantissa * mantissa').log2)
    (hcanonical : Canonical result target) (hpos : 0 < result)
    (h : Nearest result target (mantissa * 2 ^ exponent * (mantissa' * 2 ^ exponent'))) :
    UnpackedFloat.mul Format.binary64 (.finite .positive mantissa exponent hm)
        (.finite .positive mantissa' exponent' hm') =
      .finite .positive result target hpos := by
  refine roundWithAccuracy_eq (Or.inl hfine) ?_ hcanonical hpos h _
  have hproduct : (mantissa * 2 ^ exponent * (mantissa' * 2 ^ exponent') : ℚ) /
      2 ^ (exponent + exponent') = (mantissa * mantissa' : Nat) := by
    rw [div_eq_iff (two_zpow_pos _).ne', two_zpow_add, Nat.cast_mul, mul_mul_mul_comm]
  rw [hproduct]
  exact represents_exact _

/-- The exponent of a quotient. -/
def quotientExponent (mantissa mantissa' : Nat) (exponent exponent' : Int) : Int :=
  min (exponent - exponent')
    (max (mantissa.log2 + exponent - (mantissa'.log2 + exponent') - 53) (-1074))

theorem divCore_eq (mantissa mantissa' : Nat) (exponent exponent' : Int) :
    divCore Format.binary64 mantissa exponent mantissa' exponent' =
      (mantissa * 2 ^
            (exponent - exponent' - quotientExponent mantissa mantissa' exponent exponent').toNat /
          mantissa',
        quotientExponent mantissa mantissa' exponent exponent',
        accuracyOfFraction
          (mantissa * 2 ^
              (exponent - exponent' - quotientExponent mantissa mantissa' exponent exponent').toNat %
            mantissa')
          mantissa') := by
  have htarget : min (exponent - exponent') (Format.binary64.targetExponent
        (totalExponent mantissa exponent - totalExponent mantissa' exponent')) =
      quotientExponent mantissa mantissa' exponent exponent' := by
    have hbits : (Format.mantissaBits Format.binary64 : Int) = 53 := rfl
    have hleast : Format.minExponent Format.binary64 = -1074 := by decide
    rw [Format.targetExponent, totalExponent, totalExponent, quotientExponent, hbits, hleast]
    congr 2
    omega
  rw [← htarget, ← Nat.shiftLeft_eq]
  rfl

theorem isFine_quotient (hm : 0 < mantissa) (hm' : 0 < mantissa') :
    IsFine
      (mantissa * 2 ^
          (exponent - exponent' - quotientExponent mantissa mantissa' exponent exponent').toNat /
        mantissa')
      (quotientExponent mantissa mantissa' exponent exponent') := by
  by_cases hleast : quotientExponent mantissa mantissa' exponent exponent' ≤ -1074
  · exact Or.inr hleast
  · left
    have hshift : mantissa'.log2 + 53 ≤ mantissa.log2 +
        (exponent - exponent' - quotientExponent mantissa mantissa' exponent exponent').toNat := by
      unfold quotientExponent at hleast ⊢
      omega
    generalize (exponent - exponent' -
      quotientExponent mantissa mantissa' exponent exponent').toNat = shift at *
    have hlow : 2 ^ 52 * mantissa' ≤ mantissa * 2 ^ shift := by
      calc 2 ^ 52 * mantissa' ≤ 2 ^ 52 * 2 ^ (mantissa'.log2 + 1) :=
            Nat.mul_le_mul_left _ Nat.lt_log2_self.le
        _ = 2 ^ (mantissa'.log2 + 53) := by rw [← Nat.pow_add]; congr 1; omega
        _ ≤ 2 ^ (mantissa.log2 + shift) := Nat.pow_le_pow_right two_pos hshift
        _ = 2 ^ mantissa.log2 * 2 ^ shift := Nat.pow_add ..
        _ ≤ mantissa * 2 ^ shift := Nat.mul_le_mul_right _ (Nat.log2_self_le hm.ne')
    have hquotient : 2 ^ 52 ≤ mantissa * 2 ^ shift / mantissa' :=
      (Nat.le_div_iff_mul_le hm').2 hlow
    exact (Nat.le_log2 (by omega)).2 hquotient

theorem div_eq (hm : 0 < mantissa) (hm' : 0 < mantissa')
    (hcanonical : Canonical result target) (hpos : 0 < result)
    (h : Nearest result target (mantissa * 2 ^ exponent / (mantissa' * 2 ^ exponent'))) :
    UnpackedFloat.div Format.binary64 (.finite .positive mantissa exponent hm)
        (.finite .positive mantissa' exponent' hm') =
      .finite .positive result target hpos := by
  have hfine := @isFine_quotient mantissa mantissa' exponent exponent' hm hm'
  unfold UnpackedFloat.div
  dsimp only
  rw [divCore_eq]
  refine roundWithAccuracy_eq hfine ?_ hcanonical hpos h _
  have hm'pos : (0 : ℚ) < mantissa' := by exact_mod_cast hm'
  have hle : quotientExponent mantissa mantissa' exponent exponent' ≤ exponent - exponent' :=
    min_le_left _ _
  generalize quotientExponent mantissa mantissa' exponent exponent' = least at *
  have hquotient : (mantissa * 2 ^ exponent / (mantissa' * 2 ^ exponent') : ℚ) / 2 ^ least =
      ((mantissa * 2 ^ (exponent - exponent' - least).toNat : Nat) : ℚ) / mantissa' := by
    have hpow : (2 : ℚ) ^ exponent =
        2 ^ (exponent - exponent' - least).toNat * (2 ^ exponent' * 2 ^ least) := by
      rw [← zpow_natCast, ← two_zpow_add, ← two_zpow_add]
      congr 1
      omega
    have := (two_zpow_pos exponent').ne'
    have := (two_zpow_pos least).ne'
    rw [hpow]
    push_cast
    field_simp
  rw [hquotient]
  exact represents_fraction _ hm'

end Operations

/-! ## Whole numbers and powers of ten -/

theorem lowerGap_pos (mantissa : Nat) (exponent : Int) : 0 < lowerGap mantissa exponent := by
  unfold lowerGap
  split <;> norm_num

theorem nearest_self (mantissa : Nat) (exponent : Int) :
    Nearest mantissa exponent (mantissa * 2 ^ exponent) := by
  have hgap := lowerGap_pos mantissa exponent
  have hpos := two_zpow_pos exponent
  have hlow : (mantissa - lowerGap mantissa exponent) * 2 ^ exponent < mantissa * 2 ^ exponent :=
    mul_lt_mul_of_pos_right (by linarith) hpos
  have hhigh : (mantissa : ℚ) * 2 ^ exponent < (mantissa + 1 / 2) * 2 ^ exponent :=
    mul_lt_mul_of_pos_right (by linarith) hpos
  exact ⟨hlow.le, hhigh.le, fun _ => ⟨hlow, hhigh⟩⟩

theorem log2_two_pow_mul {n : Nat} (hpos : 0 < n) (k : Nat) : (n * 2 ^ k).log2 = n.log2 + k := by
  have hlow := Nat.log2_self_le hpos.ne'
  have hhigh := Nat.lt_log2_self (n := n)
  have hscaled : 0 < n * 2 ^ k := Nat.mul_pos hpos (Nat.two_pow_pos k)
  rw [Nat.log2_eq_iff hscaled.ne', Nat.add_right_comm, Nat.pow_add, Nat.pow_add]
  exact ⟨Nat.mul_le_mul_right _ hlow, Nat.mul_lt_mul_of_pos_right hhigh (Nat.two_pow_pos k)⟩

theorem canonical_scaled {n : Nat} (hpos : 0 < n) (hlt : n < 2 ^ 53) :
    Canonical (n * 2 ^ (52 - n.log2)) (n.log2 - 52) := by
  have hlog : n.log2 < 53 := (Nat.log2_lt hpos.ne').2 hlt
  have hscaled : 0 < n * 2 ^ (52 - n.log2) := Nat.mul_pos hpos (Nat.two_pow_pos _)
  have hfull : (n * 2 ^ (52 - n.log2)).log2 = 52 := by
    rw [log2_two_pow_mul hpos]
    omega
  obtain ⟨hlow, hhigh⟩ := (Nat.log2_eq_iff hscaled.ne').1 hfull
  exact ⟨hhigh, by omega, by omega, Or.inl hlow⟩

/-- The float of a natural number with at most 53 bits: the number with zeros behind it. -/
theorem ofFloat_toFloat {n : Nat} (hpos : 0 < n) (hlt : n < 2 ^ 53) :
    ofFloat n.toUInt64.toFloat = finite false (n * 2 ^ (52 - n.log2)) (n.log2 - 52) := by
  have hscaled : 0 < n * 2 ^ (52 - n.log2) := Nat.mul_pos hpos (Nat.two_pow_pos _)
  have hcanonical := canonical_scaled hpos hlt
  have hlog : n.log2 < 53 := (Nat.log2_lt hpos.ne').2 hlt
  have hword : n.toUInt64.toNat = n := Nat.mod_eq_of_lt (hlt.trans (by decide))
  have htarget : targetOf n 0 = n.log2 - 52 := by
    unfold targetOf
    omega
  have hround : UnpackedFloat.round Format.binary64 .positive n 0 =
      .finite .positive (n * 2 ^ (52 - n.log2)) (n.log2 - 52) hscaled := by
    unfold UnpackedFloat.round decreaseExponent
    have hshift : ((0 : Int) - (n.log2 - 52)).toNat = 52 - n.log2 := by omega
    have hexponent : (0 : Int) - (52 - n.log2 : Nat) = n.log2 - 52 := by omega
    rw [targetExponent_eq, htarget]
    dsimp only
    rw [hshift, hexponent, Nat.shiftLeft_eq]
    refine roundWithAccuracy_eq (Or.inl ?_) ?_ hcanonical hscaled (nearest_self _ _) _
    · rw [log2_two_pow_mul hpos]
      omega
    · rw [mul_div_cancel_right₀ _ (two_zpow_pos _).ne']
      exact represents_exact _
  show ofFloat (.ofModel (.pack (UnpackedFloat.normalize Format.binary64 n.toUInt64.toNat 0 _))) = _
  unfold UnpackedFloat.normalize
  rw [hword, Int.compare_eq_gt.2 (by omega)]
  dsimp only
  rw [Int.toNat_natCast, hround]
  exact ofFloat_pack hcanonical hscaled false

/-- A power with its positive and its negative part. -/
theorem zpow_mul_pow_toNat {base : ℚ} (h : base ≠ 0) (n : Int) :
    base ^ n * base ^ (-n).toNat = base ^ n.toNat := by
  rw [← zpow_natCast, ← zpow_natCast, ← zpow_add₀ h]
  congr 1
  omega

/-- Whether a float is exactly a power of ten. -/
def isTenPow (x : Float) (k : Nat) : Bool :=
  match ofFloat x with
  | finite false mantissa exponent =>
    mantissa * 2 ^ exponent.toNat = 10 ^ k * 2 ^ (-exponent).toNat
  | _ => false

theorem isTenPow_table : ∀ k : Fin Float.exactlyRepresentablePowersOfTen.size,
    isTenPow Float.exactlyRepresentablePowersOfTen[k] k = true := by
  decide +kernel

/-- The table of powers of ten is exact. -/
theorem exists_ofFloat_table {k : Nat} (h : k < Float.exactlyRepresentablePowersOfTen.size) :
    ∃ mantissa exponent, 0 < mantissa ∧
      ofFloat Float.exactlyRepresentablePowersOfTen[k] = finite false mantissa exponent ∧
      (mantissa : ℚ) * 2 ^ exponent = 10 ^ k := by
  have htable : isTenPow Float.exactlyRepresentablePowersOfTen[k] k = true := isTenPow_table ⟨k, h⟩
  unfold isTenPow at htable
  split at htable
  · rename_i mantissa exponent hfloat
    have hparts : mantissa * 2 ^ exponent.toNat = 10 ^ k * 2 ^ (-exponent).toNat :=
      of_decide_eq_true htable
    refine ⟨mantissa, exponent, ?_, hfloat, ?_⟩
    · refine Nat.pos_of_ne_zero ?_
      rintro rfl
      rw [Nat.zero_mul] at hparts
      exact (Nat.mul_pos (Nat.pow_pos (by omega)) (Nat.two_pow_pos _)).ne hparts
    · have hpow : (2 : ℚ) ^ (-exponent).toNat ≠ 0 := pow_ne_zero _ two_ne_zero
      rw [← mul_left_inj' hpow, mul_assoc, zpow_mul_pow_toNat two_ne_zero]
      exact_mod_cast hparts
  · cases htable

/-! ## Decimals -/

section Decimals

variable {digits mantissa : Nat} {place exponent : Int}

theorem ofFloat_mul {x y : Float} {m m' : Nat} {e e' : Int} (hx : ofFloat x = finite false m e)
    (hy : ofFloat y = finite false m' e') (hm : 0 < m) (hm' : 0 < m') (hfine : 52 ≤ m.log2)
    (hcanonical : Canonical mantissa exponent) (hpos : 0 < mantissa)
    (h : Nearest mantissa exponent (m * 2 ^ e * (m' * 2 ^ e'))) :
    ofFloat (x * y) = finite false mantissa exponent := by
  have hproduct : 52 ≤ (m * m').log2 := by
    rw [Nat.le_log2 (Nat.mul_pos hm hm').ne']
    exact ((Nat.le_log2 hm.ne').1 hfine).trans (Nat.le_mul_of_pos_right m hm')
  show ofFloat (.ofModel (.pack (UnpackedFloat.mul Format.binary64 x.toModel.unpack
    y.toModel.unpack))) = _
  rw [unpack_of_ofFloat hx, unpack_of_ofFloat hy, dif_neg hm.ne', dif_neg hm'.ne', signOf,
    if_neg Bool.false_ne_true, mul_eq hm hm' hproduct hcanonical hpos h]
  exact ofFloat_pack hcanonical hpos false

theorem ofFloat_div {x y : Float} {m m' : Nat} {e e' : Int} (hx : ofFloat x = finite false m e)
    (hy : ofFloat y = finite false m' e') (hm : 0 < m) (hm' : 0 < m')
    (hcanonical : Canonical mantissa exponent) (hpos : 0 < mantissa)
    (h : Nearest mantissa exponent (m * 2 ^ e / (m' * 2 ^ e'))) :
    ofFloat (x / y) = finite false mantissa exponent := by
  show ofFloat (.ofModel (.pack (UnpackedFloat.div Format.binary64 x.toModel.unpack
    y.toModel.unpack))) = _
  rw [unpack_of_ofFloat hx, unpack_of_ofFloat hy, dif_neg hm.ne', dif_neg hm'.ne', signOf,
    if_neg Bool.false_ne_true, div_eq hm hm' hcanonical hpos h]
  exact ofFloat_pack hcanonical hpos false

theorem ten_zpow_of_nonneg (h : 0 ≤ place) : (10 : ℚ) ^ place = 10 ^ place.natAbs := by
  rw [← zpow_natCast, Int.natAbs_of_nonneg h]

theorem ten_zpow_of_neg (h : place < 0) : (10 : ℚ) ^ place = (10 ^ place.natAbs)⁻¹ := by
  rw [← zpow_natCast, ← zpow_neg]
  congr 1
  omega

theorem scaled_mul_two_zpow (h : digits < 2 ^ 53) (hdigits : 0 < digits) :
    ((digits * 2 ^ (52 - digits.log2) : Nat) : ℚ) * 2 ^ ((digits.log2 : Int) - 52) = digits := by
  have hlog : digits.log2 < 53 := (Nat.log2_lt hdigits.ne').2 h
  have hexponent : ((52 - digits.log2 : Nat) : Int) + (digits.log2 - 52) = 0 := by omega
  push_cast
  rw [mul_assoc, ← zpow_natCast, ← two_zpow_add, hexponent, zpow_zero, mul_one]

/-- A decimal of few digits and places is the product or the quotient of two exact floats. -/
theorem ofFloat_ofScientific_of_lt (hdigits : 0 < digits) (hlt : digits < 2 ^ 53)
    (hplace : place.natAbs < Float.exactlyRepresentablePowersOfTen.size)
    (hcanonical : Canonical mantissa exponent) (hpos : 0 < mantissa)
    (h : Nearest mantissa exponent (digits * 10 ^ place)) :
    ofFloat
        (if place < 0 then
          digits.toUInt64.toFloat / Float.exactlyRepresentablePowersOfTen[place.natAbs]
        else digits.toUInt64.toFloat * Float.exactlyRepresentablePowersOfTen[place.natAbs]) =
      finite false mantissa exponent := by
  obtain ⟨m, e, hm, htable, hvalue⟩ := exists_ofFloat_table hplace
  have hscaled : 0 < digits * 2 ^ (52 - digits.log2) := Nat.mul_pos hdigits (Nat.two_pow_pos _)
  have hlog : digits.log2 < 53 := (Nat.log2_lt hdigits.ne').2 hlt
  have hfine : 52 ≤ (digits * 2 ^ (52 - digits.log2)).log2 := by
    rw [log2_two_pow_mul hdigits]
    omega
  have hfloat := ofFloat_toFloat hdigits hlt
  by_cases hneg : place < 0
  · rw [if_pos hneg]
    refine ofFloat_div hfloat htable hscaled hm hcanonical hpos ?_
    rwa [scaled_mul_two_zpow hlt hdigits, hvalue, div_eq_mul_inv, ← ten_zpow_of_neg hneg]
  · rw [if_neg hneg]
    refine ofFloat_mul hfloat htable hscaled hm hfine hcanonical hpos ?_
    rwa [scaled_mul_two_zpow hlt hdigits, hvalue, ← ten_zpow_of_nonneg (Int.not_lt.1 hneg)]

/-- Every other decimal is multiplied or divided by its power of ten exactly, and then rounded. -/
theorem ofScientific_eq (hdigits : 0 < digits) (hle : place ≤ 2 ^ 11)
    (hge : -(2 ^ 11 + digits.log2) ≤ place)
    (hcanonical : Canonical mantissa exponent) (hpos : 0 < mantissa)
    (h : Nearest mantissa exponent (digits * 10 ^ place)) :
    UnpackedFloat.ofScientific Format.binary64 digits place =
      .finite .positive mantissa exponent hpos := by
  unfold UnpackedFloat.ofScientific
  rw [dif_neg hdigits.ne', if_neg (Int.not_lt.2 hle), if_neg (Int.not_lt.2 hge)]
  by_cases hneg : place < 0
  · rw [if_neg (Int.not_le.2 hneg)]
    refine div_eq hdigits _ hcanonical hpos ?_
    have habs : (-place).toNat = place.natAbs := by omega
    rwa [habs, zpow_zero, mul_one, mul_one, Nat.cast_pow, Nat.cast_ofNat, div_eq_mul_inv,
      ← ten_zpow_of_neg hneg]
  · rw [if_pos (Int.not_lt.1 hneg)]
    have hshifted : digits <<< Format.mantissaBits Format.binary64 = digits * 2 ^ 53 :=
      Nat.shiftLeft_eq _ _
    have hpow : 0 < 10 ^ place.toNat := Nat.pow_pos (by omega)
    refine mul_eq _ hpow ?_ hcanonical hpos ?_
    · rw [hshifted, Nat.le_log2 (Nat.mul_pos (Nat.mul_pos hdigits (by decide)) hpow).ne']
      calc 2 ^ 52 ≤ 1 * 2 ^ 53 * 1 := by decide
        _ ≤ digits * 2 ^ 53 * 10 ^ place.toNat :=
          Nat.mul_le_mul (Nat.mul_le_mul_right _ hdigits) hpow
    · have habs : place.toNat = place.natAbs := by omega
      have hbits : (-(Format.mantissaBits Format.binary64 : Nat) : Int) = -53 := rfl
      have hexact : ((digits * 2 ^ 53 : Nat) : ℚ) * 2 ^ (-53 : Int) = digits := by
        rw [Nat.cast_mul, Nat.cast_pow, Nat.cast_ofNat, mul_assoc, ← zpow_natCast, ← two_zpow_add]
        exact mul_one _
      rwa [hshifted, habs, hbits, hexact, zpow_zero, mul_one, Nat.cast_pow, Nat.cast_ofNat,
        ← ten_zpow_of_nonneg (Int.not_lt.1 hneg)]

/-- The float of a decimal is the nearest one. -/
theorem ofFloat_ofScientific (hdigits : 0 < digits) (hle : place ≤ 2 ^ 11)
    (hge : -(2 ^ 11 + digits.log2) ≤ place)
    (hcanonical : Canonical mantissa exponent) (hpos : 0 < mantissa)
    (h : Nearest mantissa exponent (digits * 10 ^ place)) :
    ofFloat (Float.ofScientific digits (place < 0) place.natAbs) =
      finite false mantissa exponent := by
  unfold Float.ofScientific
  split
  · rename_i hfast
    have hplace : place.natAbs < Float.exactlyRepresentablePowersOfTen.size :=
      Nat.lt_succ_of_le hfast.2
    have := ofFloat_ofScientific_of_lt hdigits hfast.1 hplace hcanonical hpos h
    simpa only [decide_eq_true_eq] using this
  · have hplace : (if decide (place < 0) = true then Int.negOfNat place.natAbs
        else Int.ofNat place.natAbs) = place := by
      by_cases hneg : place < 0
      · rw [if_pos (decide_eq_true hneg)]
        show Int.negOfNat place.natAbs = place
        rw [Int.negOfNat_eq]
        show -(place.natAbs : Int) = place
        omega
      · rw [if_neg (by simpa using hneg)]
        show (place.natAbs : Int) = place
        omega
    rw [hplace]
    show ofFloat (.ofModel (.pack _)) = _
    rw [ofScientific_eq hdigits hle hge hcanonical hpos h]
    exact ofFloat_pack hcanonical hpos false

/-! ## Limits -/

/-- A float is the nearest one to nothing below half the smallest float or beyond the largest. -/
theorem Nearest.range (hcanonical : Canonical mantissa exponent) (hpos : 0 < mantissa) {x : ℚ}
    (h : Nearest mantissa exponent x) : 2 ^ (-1075 : Int) ≤ x ∧ x < 2 ^ (1024 : Int) := by
  constructor
  · have hgap := lowerGap_le mantissa exponent
    have hone : (1 : ℚ) ≤ mantissa := by exact_mod_cast hpos
    calc (2 : ℚ) ^ (-1075 : Int) ≤ 2 ^ (exponent - 1) :=
          two_zpow_le_iff.2 (by have := hcanonical.le_exponent; omega)
      _ = 1 / 2 * 2 ^ exponent := by rw [zpow_sub_one₀ two_ne_zero]; ring
      _ ≤ (mantissa - lowerGap mantissa exponent) * 2 ^ exponent :=
          mul_le_mul_of_nonneg_right (by linarith) (two_zpow_pos _).le
      _ ≤ x := h.low
  · refine (h.lt_two_zpow hcanonical).trans_le (two_zpow_le_iff.2 ?_)
    have := hcanonical.exponent_le
    omega

theorem ten_zpow_pos (n : Int) : (0 : ℚ) < 10 ^ n := zpow_pos (by norm_num) n

theorem ten_zpow_lt_iff {a b : Int} : (10 : ℚ) ^ a < 10 ^ b ↔ a < b :=
  zpow_lt_zpow_iff_right₀ (by norm_num)

theorem two_zpow_lt_ten_zpow : (2 : ℚ) ^ (1075 : Int) < 10 ^ (400 : Int) := by
  calc (2 : ℚ) ^ (1075 : Int) < 2 ^ (((3 * 400 : Nat)) : Int) := two_zpow_lt_iff.2 (by omega)
    _ = (2 ^ 3) ^ 400 := by rw [zpow_natCast, pow_mul]
    _ < 10 ^ 400 := pow_lt_pow_left₀ (by norm_num) (by norm_num) (by omega)
    _ = 10 ^ (400 : Int) := (zpow_natCast _ _).symm

theorem Nearest.digits_pos (hcanonical : Canonical mantissa exponent) (hpos : 0 < mantissa)
    (h : Nearest mantissa exponent (digits * 10 ^ place)) : 0 < digits := by
  refine Nat.pos_of_ne_zero ?_
  rintro rfl
  have hlow := (h.range hcanonical hpos).1
  rw [Nat.cast_zero, zero_mul] at hlow
  exact absurd hlow (not_le.2 (two_zpow_pos _))

/-- The place in front of the first digit of a number that has a nearest float is small. -/
theorem Nearest.place_bounds (hcanonical : Canonical mantissa exponent) (hpos : 0 < mantissa)
    (h : Nearest mantissa exponent (digits * 10 ^ place)) :
    -400 ≤ place + Decimal.digitCount digits ∧ place + Decimal.digitCount digits ≤ 400 := by
  obtain ⟨hlow, hhigh⟩ := h.range hcanonical hpos
  have hdigits := h.digits_pos hcanonical hpos
  have hplace := ten_zpow_pos place
  have hcount : 0 < Decimal.digitCount digits := Nat.length_toDigits_pos
  constructor
  · have hlt : (digits * 10 ^ place : ℚ) < 10 ^ (place + Decimal.digitCount digits) := by
      rw [add_comm, zpow_add₀ (by norm_num), zpow_natCast]
      exact mul_lt_mul_of_pos_right (by exact_mod_cast lt_pow_digitCount digits) hplace
    have hleast : (10 : ℚ) ^ (-400 : Int) < 2 ^ (-1075 : Int) := by
      rw [zpow_neg, zpow_neg]
      exact inv_strictAnti₀ (two_zpow_pos _) two_zpow_lt_ten_zpow
    exact (ten_zpow_lt_iff.1 (hleast.trans_le hlow |>.trans hlt)).le
  · have hle : (10 : ℚ) ^ (place + Decimal.digitCount digits - 1) ≤ digits * 10 ^ place := by
      have hsplit : place + Decimal.digitCount digits - 1 =
          ((Decimal.digitCount digits - 1 : Nat) : Int) + place := by omega
      rw [hsplit, zpow_add₀ (by norm_num), zpow_natCast]
      exact mul_le_mul_of_nonneg_right (by exact_mod_cast pow_digitCount_le hdigits) hplace.le
    have hmost : (2 : ℚ) ^ (1024 : Int) < 10 ^ (400 : Int) :=
      (two_zpow_lt_iff.2 (by omega)).trans two_zpow_lt_ten_zpow
    have := ten_zpow_lt_iff.1 (hle.trans_lt hhigh |>.trans hmost)
    omega

end Decimals

theorem digitCount_le_log2 {n : Nat} (h : 0 < n) : Decimal.digitCount n ≤ n.log2 + 1 := by
  have hpow : 2 ^ (Decimal.digitCount n - 1) ≤ n :=
    (Nat.pow_le_pow_left (by omega) _).trans (pow_digitCount_le h)
  have := (Nat.le_log2 h.ne').2 hpow
  omega

theorem ofFloat_neg_if {x : Float} {mantissa : Nat} {exponent : Int}
    (h : ofFloat x = finite false mantissa exponent) (negative : Bool) :
    ofFloat (if negative then -x else x) = finite negative mantissa exponent := by
  cases negative with
  | false => exact h
  | true => exact ofFloat_neg h

/-- **A decimal is read as the float that is nearest to it.** -/
theorem ofFloat_floatOfDecimal {digits mantissa : Nat} {place exponent : Int}
    (hcanonical : Canonical mantissa exponent) (hpos : 0 < mantissa)
    (h : Nearest mantissa exponent (digits * 10 ^ place)) (negative : Bool) :
    ofFloat (floatOfDecimal negative digits place) = finite negative mantissa exponent := by
  have hdigits := h.digits_pos hcanonical hpos
  obtain ⟨hleast, hmost⟩ := h.place_bounds hcanonical hpos
  have hcount := digitCount_le_log2 hdigits
  have hsmall : ¬ (digits = 0 ∨ place + Decimal.digitCount digits < -400) := by omega
  have hlarge : ¬ 400 < place + Decimal.digitCount digits := by omega
  unfold floatOfDecimal
  dsimp only
  rw [if_neg hsmall, if_neg hlarge]
  exact ofFloat_neg_if
    (ofFloat_ofScientific hdigits (by omega) (by omega) hcanonical hpos h) negative

theorem ofFloat_floatOfDecimal_zero (negative : Bool) (place : Int) :
    ofFloat (floatOfDecimal negative 0 place) = finite negative 0 (-1074) := by
  have hzero : (0 : Nat) = 0 ∨ place + Decimal.digitCount 0 < -400 := Or.inl rfl
  unfold floatOfDecimal
  dsimp only
  rw [if_pos hzero]
  exact ofFloat_neg_if (by decide) negative

end Binary

end DryRun
