import Mathlib.Data.Nat.Cast.Order.Field
import DryRun.Proofs.Number.Scientific

/-!
# Shortest decimals

The decimal with the fewest digits that is written for a float is found on some grid of powers of
ten: at the latest with seventeen digits, where the grid is finer than the floats. So the float is
the nearest one to what is written for it (`nearest_shortest`).
-/

namespace DryRun

namespace Decimal

open Binary

/-- The number that a decimal stands for. -/
def value (d : Decimal) : ℚ := d.digits * 10 ^ d.exponent

theorem powerRatio_snd_pos (twos tens : Int) : (0 : ℚ) < (powerRatio twos tens).2 := by
  unfold powerRatio
  exact_mod_cast Nat.mul_pos (Nat.pow_pos (by omega)) (Nat.pow_pos (by omega))

theorem powerRatio_eq (twos tens : Int) :
    ((powerRatio twos tens).1 : ℚ) = 2 ^ twos * 10 ^ tens * (powerRatio twos tens).2 := by
  have htwos := zpow_mul_pow_toNat (two_ne_zero (α := ℚ)) twos
  have htens := zpow_mul_pow_toNat (by norm_num : (10 : ℚ) ≠ 0) tens
  unfold powerRatio
  simp only [Nat.pow_eq]
  push_cast
  rw [← htwos, ← htens]
  ring

/-! ## Neighbours -/

section Grid

variable {mantissa : Nat} {exponent place : Int}

/-- Whether a multiple of a power of ten reads back, in whole numbers. -/
def inside (mantissa : Nat) (exponent place : Int) (n : Nat) : Bool :=
  let (p, q) := powerRatio (exponent - 2) (-place)
  let narrow := mantissa = Binary.leastFullMantissa && exponent > Binary.leastExponent
  let low := (4 * mantissa - (if narrow then 1 else 2)) * p
  let high := (4 * mantissa + 2) * p
  if mantissa % 2 = 0 then low ≤ n * q && n * q ≤ high else low < n * q && n * q < high

theorem onGrid?_eq (tie : Tie) (mantissa : Nat) (exponent place : Int) :
    onGrid? tie mantissa exponent place =
      let (p, q) := powerRatio (exponent - 2) (-place)
      let below := 4 * mantissa * p / q
      let nearest := roundRatio tie (4 * mantissa * p) q
      (if inside mantissa exponent place nearest then some nearest
      else if inside mantissa exponent place below then some below
      else if inside mantissa exponent place (below + 1) then some (below + 1)
      else none).map (⟨·, place⟩) := rfl

theorem cast_mul_powerRatio (a : Nat) (exponent place : Int) :
    ((a * (powerRatio (exponent - 2) (-place)).1 : Nat) : ℚ) =
      a / 4 * 2 ^ exponent / 10 ^ place * (powerRatio (exponent - 2) (-place)).2 := by
  have hfour : (2 : ℚ) ^ (2 : Int) = 4 := by norm_num
  rw [Nat.cast_mul, powerRatio_eq, zpow_sub₀ two_ne_zero, zpow_neg, hfour]
  ring

theorem scaled_le_iff (a n : Nat) (exponent place : Int) :
    a * (powerRatio (exponent - 2) (-place)).1 ≤ n * (powerRatio (exponent - 2) (-place)).2 ↔
      (a / 4 : ℚ) * 2 ^ exponent ≤ n * 10 ^ place := by
  rw [← Nat.cast_le (α := ℚ), cast_mul_powerRatio, Nat.cast_mul,
    mul_le_mul_iff_left₀ (powerRatio_snd_pos _ _), div_le_iff₀ (ten_zpow_pos place)]

theorem le_scaled_iff (a n : Nat) (exponent place : Int) :
    n * (powerRatio (exponent - 2) (-place)).2 ≤ a * (powerRatio (exponent - 2) (-place)).1 ↔
      (n * 10 ^ place : ℚ) ≤ a / 4 * 2 ^ exponent := by
  rw [← Nat.cast_le (α := ℚ), cast_mul_powerRatio, Nat.cast_mul,
    mul_le_mul_iff_left₀ (powerRatio_snd_pos _ _), le_div_iff₀ (ten_zpow_pos place)]

/-- The lower bound in quarters of a unit is a quarter or two below the mantissa, as the gap is. -/
theorem lowQuarters_eq (hpos : 0 < mantissa) (exponent : Int) :
    ((4 * mantissa -
      (if mantissa = Binary.leastFullMantissa && exponent > Binary.leastExponent then 1 else 2) :
        Nat) / 4 : ℚ) = mantissa - lowerGap mantissa exponent := by
  have hiff : (mantissa = Binary.leastFullMantissa && exponent > Binary.leastExponent) = true ↔
      mantissa = 2 ^ 52 ∧ -1074 < exponent := by
    rw [Bool.and_eq_true, decide_eq_true_eq, decide_eq_true_eq]
    exact Iff.rfl
  unfold lowerGap
  by_cases hnarrow : mantissa = 2 ^ 52 ∧ -1074 < exponent
  · rw [if_pos (hiff.2 hnarrow), if_pos hnarrow, Nat.cast_sub (by omega)]
    push_cast
    ring
  · rw [if_neg (mt hiff.1 hnarrow), if_neg hnarrow, Nat.cast_sub (by omega)]
    push_cast
    ring

/-- What reads back is what the float is the nearest one to. -/
theorem inside_iff (hpos : 0 < mantissa) (n : Nat) :
    inside mantissa exponent place n = true ↔ Nearest mantissa exponent (n * 10 ^ place) := by
  have hlow := lowQuarters_eq hpos exponent
  have hhigh : ((4 * mantissa + 2 : Nat) / 4 : ℚ) = mantissa + 1 / 2 := by
    push_cast
    ring
  unfold inside
  dsimp only
  generalize (4 * mantissa -
    (if mantissa = Binary.leastFullMantissa && exponent > Binary.leastExponent then 1 else 2)) =
      low at *
  generalize 4 * mantissa + 2 = high at *
  have hlowIff := scaled_le_iff low n exponent place
  have hhighIff := le_scaled_iff high n exponent place
  have hlowIff' := le_scaled_iff low n exponent place
  have hhighIff' := scaled_le_iff high n exponent place
  rw [hlow] at hlowIff hlowIff'
  rw [hhigh] at hhighIff hhighIff'
  split
  · rename_i heven
    rw [Bool.and_eq_true, decide_eq_true_eq, decide_eq_true_eq, hlowIff, hhighIff]
    constructor
    · rintro ⟨hlow, hhigh⟩
      exact ⟨hlow, hhigh, fun hodd => by omega⟩
    · intro h
      exact ⟨h.low, h.high⟩
  · rename_i hodd
    rw [Bool.and_eq_true, decide_eq_true_eq, decide_eq_true_eq, ← not_le, ← not_le, hlowIff',
      hhighIff', not_le, not_le]
    constructor
    · rintro ⟨hlow, hhigh⟩
      exact ⟨hlow.le, hhigh.le, fun _ => ⟨hlow, hhigh⟩⟩
    · intro h
      exact h.inside (by omega)

/-- What is found on a grid is a multiple that reads back. -/
theorem nearest_of_onGrid? {tie : Tie} {d : Decimal} (hpos : 0 < mantissa)
    (h : onGrid? tie mantissa exponent place = some d) :
    d.exponent = place ∧ Nearest mantissa exponent d.value := by
  rw [onGrid?_eq] at h
  obtain ⟨n, hchosen, rfl⟩ := Option.map_eq_some_iff.1 h
  refine ⟨rfl, (inside_iff hpos n).1 ?_⟩
  split at hchosen
  · cases hchosen
    assumption
  · split at hchosen
    · cases hchosen
      assumption
    · split at hchosen
      · cases hchosen
        assumption
      · cases hchosen

/-- A ratio is rounded to a number that is at most a half away. -/
theorem roundRatio_bounds (tie : Tie) (numerator : Nat) {denominator : Nat}
    (h : 0 < denominator) :
    (numerator / denominator : ℚ) - 1 / 2 ≤ roundRatio tie numerator denominator ∧
      (roundRatio tie numerator denominator : ℚ) ≤ numerator / denominator + 1 / 2 := by
  have hmod := Nat.mod_lt numerator h
  rw [ratio_eq numerator h]
  unfold roundRatio
  dsimp only
  generalize numerator / denominator = quotient at *
  generalize numerator % denominator = rest at *
  obtain ⟨hnonneg, hlt⟩ := fraction_bounds h hmod
  split
  · rename_i hleft
    have := (fraction_lt_half_iff h).2 hleft
    constructor <;> linarith
  · rename_i hleft
    have habove := not_lt.1 (mt (fraction_lt_half_iff h).1 hleft)
    split
    · push_cast
      constructor <;> linarith
    · rename_i hright
      have hbelow := not_lt.1 (mt (half_lt_fraction_iff h).1 hright)
      have hbit : ((quotient % 2 : Nat) : ℚ) ≤ 1 := by
        exact_mod_cast Nat.lt_succ_iff.1 (Nat.mod_lt quotient two_pos)
      have hbit' : (0 : ℚ) ≤ ((quotient % 2 : Nat) : ℚ) := Nat.cast_nonneg _
      cases tie <;> push_cast <;> constructor <;> linarith

/-! ## The first digit -/

theorem ten_zpow_digitCount_le {numerator denominator : Nat} (h : 0 < denominator)
    (hle : denominator ≤ numerator) :
    (10 : ℚ) ^ ((digitCount (numerator / denominator) : Int) - 1) ≤ numerator / denominator := by
  have hquotient : 0 < numerator / denominator := Nat.div_pos hle h
  have hcount : 0 < digitCount (numerator / denominator) := Nat.length_toDigits_pos
  have hexponent : (digitCount (numerator / denominator) : Int) - 1 =
      ((digitCount (numerator / denominator) - 1 : Nat) : Int) := by omega
  rw [hexponent, zpow_natCast]
  calc (10 : ℚ) ^ (digitCount (numerator / denominator) - 1) ≤ (numerator / denominator : Nat) := by
        exact_mod_cast pow_digitCount_le hquotient
    _ ≤ numerator / denominator := Nat.cast_div_le

theorem ten_zpow_neg_digitCount_le {numerator denominator : Nat} (hn : 0 < numerator)
    (h : 0 < denominator) :
    (10 : ℚ) ^ (-(digitCount ((denominator - 1) / numerator) : Int)) ≤
      numerator / denominator := by
  have hden : (0 : ℚ) < denominator := by exact_mod_cast h
  have hlt := (Nat.div_lt_iff_lt_mul hn).1 (lt_pow_digitCount ((denominator - 1) / numerator))
  have hle : denominator ≤ numerator * 10 ^ digitCount ((denominator - 1) / numerator) := by
    rw [Nat.mul_comm]
    omega
  rw [zpow_neg, zpow_natCast, inv_eq_one_div, div_le_div_iff₀ (by positivity) hden, one_mul]
  exact_mod_cast hle

theorem value_eq_ratio (mantissa : Nat) (exponent : Int) :
    (mantissa * 2 ^ exponent : ℚ) =
      (mantissa * (powerRatio exponent 0).1 : Nat) / (powerRatio exponent 0).2 := by
  rw [eq_div_iff (powerRatio_snd_pos _ _).ne', Nat.cast_mul, powerRatio_eq, zpow_zero]
  ring

/-- The power of ten at the first digit is not larger than the number. -/
theorem ten_zpow_leadingPlace_le (hpos : 0 < mantissa) :
    (10 : ℚ) ^ leadingPlace mantissa exponent ≤ mantissa * 2 ^ exponent := by
  have hden : 0 < (powerRatio exponent 0).2 := by exact_mod_cast powerRatio_snd_pos exponent 0
  have hvalue := value_eq_ratio mantissa exponent
  have hnum : 0 < mantissa * (powerRatio exponent 0).1 :=
    Nat.mul_pos hpos (Nat.mul_pos (Nat.two_pow_pos _) (Nat.pow_pos (by omega)))
  rw [hvalue]
  unfold leadingPlace
  dsimp only
  split
  · rename_i hle
    exact ten_zpow_digitCount_le hden hle
  · exact ten_zpow_neg_digitCount_le hnum hden

/-- The first digit of a number from one on stands before the point. -/
theorem leadingPlace_nonneg (h : 1 ≤ (mantissa * 2 ^ exponent : ℚ)) :
    0 ≤ leadingPlace mantissa exponent := by
  rw [value_eq_ratio, one_le_div (powerRatio_snd_pos _ _)] at h
  have hle : (powerRatio exponent 0).2 ≤ mantissa * (powerRatio exponent 0).1 := by
    exact_mod_cast h
  have hcount : 0 < digitCount (mantissa * (powerRatio exponent 0).1 / (powerRatio exponent 0).2) :=
    Nat.length_toDigits_pos
  unfold leadingPlace
  dsimp only
  rw [if_pos hle]
  omega

theorem onGrid?_isSome (tie : Tie)
    (h : inside mantissa exponent place
      (roundRatio tie (4 * mantissa * (powerRatio (exponent - 2) (-place)).1)
        (powerRatio (exponent - 2) (-place)).2) = true) :
    (onGrid? tie mantissa exponent place).isSome = true := by
  rw [onGrid?_eq]
  dsimp only
  rw [if_pos h]
  rfl

theorem cast_ratio (mantissa : Nat) (exponent place : Int) :
    ((4 * mantissa * (powerRatio (exponent - 2) (-place)).1 : Nat) : ℚ) /
        (powerRatio (exponent - 2) (-place)).2 =
      mantissa * 2 ^ exponent / 10 ^ place := by
  rw [cast_mul_powerRatio, mul_div_cancel_right₀ _ (powerRatio_snd_pos _ _).ne', Nat.cast_mul,
    Nat.cast_ofNat, mul_div_cancel_left₀ _ (by norm_num : (4 : ℚ) ≠ 0)]

/-- On a fine grid the nearest multiple reads back. -/
theorem onGrid?_isSome_of_le (tie : Tie) (hcanonical : Canonical mantissa exponent)
    (hpos : 0 < mantissa) (h : 10 ^ place * 10 ^ 16 ≤ (mantissa * 2 ^ exponent : ℚ)) :
    (onGrid? tie mantissa exponent place).isSome = true := by
  have hten := ten_zpow_pos place
  have htwo := two_zpow_pos exponent
  have hQ : 0 < (powerRatio (exponent - 2) (-place)).2 := by
    exact_mod_cast powerRatio_snd_pos (exponent - 2) (-place)
  obtain ⟨hlow, hhigh⟩ :=
    roundRatio_bounds tie (4 * mantissa * (powerRatio (exponent - 2) (-place)).1) hQ
  refine onGrid?_isSome tie ((inside_iff hpos _).2 ?_)
  generalize roundRatio tie _ _ = n at *
  rw [cast_ratio] at hlow hhigh
  have hlow' : (mantissa : ℚ) * 2 ^ exponent - 1 / 2 * 10 ^ place ≤ n * 10 ^ place := by
    have := mul_le_mul_of_nonneg_right hlow hten.le
    rwa [sub_mul, div_mul_cancel₀ _ hten.ne'] at this
  have hhigh' : (n : ℚ) * 10 ^ place ≤ mantissa * 2 ^ exponent + 1 / 2 * 10 ^ place := by
    have := mul_le_mul_of_nonneg_right hhigh hten.le
    rwa [add_mul, div_mul_cancel₀ _ hten.ne'] at this
  have hmantissa : (mantissa : ℚ) < 2 ^ 53 := by exact_mod_cast hcanonical.lt_two_pow
  have hstep : (10 : ℚ) ^ place < 2 ^ exponent := by nlinarith
  have hgap : (10 : ℚ) ^ place < 2 * lowerGap mantissa exponent * 2 ^ exponent := by
    unfold lowerGap
    split
    · rename_i hnarrow
      rw [hnarrow.1] at h
      push_cast at h
      nlinarith
    · linarith
  have hbelow : (mantissa - lowerGap mantissa exponent : ℚ) * 2 ^ exponent < n * 10 ^ place := by
    linarith
  have habove : (n : ℚ) * 10 ^ place < (mantissa + 1 / 2) * 2 ^ exponent := by linarith
  exact ⟨hbelow.le, habove.le, fun _ => ⟨hbelow, habove⟩⟩

end Grid

/-! ## Zeros at the end -/

theorem value_withoutZeros (fuel : Nat) (d : Decimal) : (withoutZeros fuel d).value = d.value := by
  induction fuel generalizing d with
  | zero => rfl
  | succ fuel ih =>
    rw [withoutZeros]
    split
    · rename_i hzero
      have hdigits : ((d.digits / 10 : Nat) : ℚ) * 10 = d.digits := by
        exact_mod_cast Nat.div_mul_cancel (Nat.dvd_of_mod_eq_zero hzero.2)
      rw [ih, value, value, zpow_add_one₀ (by norm_num), ← hdigits]
      ring
    · rfl

theorem exponent_le_withoutZeros (fuel : Nat) (d : Decimal) :
    d.exponent ≤ (withoutZeros fuel d).exponent := by
  induction fuel generalizing d with
  | zero => exact le_rfl
  | succ fuel ih =>
    rw [withoutZeros]
    split
    · exact (by omega : d.exponent ≤ d.exponent + 1).trans (ih ⟨d.digits / 10, d.exponent + 1⟩)
    · exact le_rfl

/-! ## The fewest digits -/

section Shortest

variable {mantissa : Nat} {exponent : Int}

theorem exists_first_of_findSome?_range {f : Nat → Option α} {n : Nat} {a : α}
    (h : (List.range n).findSome? f = some a) : ∃ k, f k = some a ∧ ∀ j < k, f j = none := by
  obtain ⟨before, k, behind, hrange, hk, hnone⟩ := List.findSome?_eq_some_iff.1 h
  refine ⟨k, hk, fun j hj => hnone j ?_⟩
  have hsorted : (before ++ k :: behind).Pairwise (· < ·) := hrange ▸ List.pairwise_lt_range
  have hlt : k < n := List.mem_range.1 (hrange ▸ List.mem_append_right _ List.mem_cons_self)
  have hmem : j ∈ before ++ k :: behind := hrange ▸ List.mem_range.2 (hj.trans hlt)
  rcases List.mem_append.1 hmem with hbefore | hbehind
  · exact hbefore
  · rcases List.mem_cons.1 hbehind with rfl | hbehind
    · omega
    · have := (List.pairwise_cons.1 (List.pairwise_append.1 hsorted).2.1).1 j hbehind
      omega

theorem exists_shortest (tie : Tie) (hcanonical : Canonical mantissa exponent)
    (hpos : 0 < mantissa) :
    ∃ (n : Nat) (d : Decimal),
      onGrid? tie mantissa exponent (leadingPlace mantissa exponent - n) = some d ∧
      shortest tie mantissa exponent = withoutZeros mostDigits d ∧
      ∀ k < n,
        onGrid? tie mantissa exponent (leadingPlace mantissa exponent - (k : Nat)) = none := by
  have hlast : (onGrid? tie mantissa exponent
      (leadingPlace mantissa exponent - (16 : Nat))).isSome = true := by
    refine onGrid?_isSome_of_le tie hcanonical hpos ?_
    rw [← zpow_natCast, ← zpow_add₀ (by norm_num), Int.sub_add_cancel]
    exact ten_zpow_leadingPlace_le hpos
  have hfound : ((List.range mostDigits).findSome? fun n : Nat =>
      onGrid? tie mantissa exponent (leadingPlace mantissa exponent - n)).isSome = true :=
    List.findSome?_isSome_iff.2 ⟨16, by decide, hlast⟩
  obtain ⟨d, hd⟩ := Option.isSome_iff_exists.1 hfound
  obtain ⟨n, hn, hnone⟩ := exists_first_of_findSome?_range hd
  refine ⟨n, d, hn, ?_, hnone⟩
  unfold shortest
  dsimp only
  rw [hd]
  rfl

/-- The decimal with the fewest digits has the float as the nearest one. -/
theorem nearest_shortest (tie : Tie) (hcanonical : Canonical mantissa exponent)
    (hpos : 0 < mantissa) : Nearest mantissa exponent (shortest tie mantissa exponent).value := by
  obtain ⟨n, d, hfound, hshortest, -⟩ := exists_shortest tie hcanonical hpos
  rw [hshortest, value_withoutZeros]
  exact (nearest_of_onGrid? hpos hfound).2

/-! ## Whole numbers -/

theorem value_of_nonneg {d : Decimal} (h : 0 ≤ d.exponent) :
    d.value = (d.digits * 10 ^ d.exponent.toNat : Nat) := by
  rw [value, Nat.cast_mul, Nat.cast_pow, Nat.cast_ofNat, ← zpow_natCast, Int.toNat_of_nonneg h]

/-- The only whole number that a float may be the nearest one to is the float itself. -/
theorem mod_eq_zero_of_nearest {n : Nat} (hexponent : exponent ≤ 0)
    (h : Nearest mantissa exponent n) : mantissa % 2 ^ (-exponent).toNat = 0 := by
  have hscale : (2 : ℚ) ^ exponent * 2 ^ (-exponent).toNat = 1 := by
    rw [zpow_mul_pow_toNat two_ne_zero, Int.toNat_eq_zero.2 hexponent, pow_zero]
  have hpow : (0 : ℚ) < 2 ^ (-exponent).toNat := pow_pos two_pos _
  have hlow : (mantissa : ℚ) - 1 / 2 ≤ n * 2 ^ (-exponent).toNat := by
    have hgap := lowerGap_le mantissa exponent
    have := mul_le_mul_of_nonneg_right h.low hpow.le
    rw [mul_assoc, hscale, mul_one] at this
    linarith
  have hhigh : (n : ℚ) * 2 ^ (-exponent).toNat ≤ mantissa + 1 / 2 := by
    have := mul_le_mul_of_nonneg_right h.high hpow.le
    rwa [mul_assoc _ _ ((2 : ℚ) ^ _), hscale, mul_one] at this
  have hle : mantissa ≤ n * 2 ^ (-exponent).toNat := by
    refine le_of_cast_lt_succ ?_
    push_cast
    linarith
  have hge : n * 2 ^ (-exponent).toNat ≤ mantissa := by
    refine le_of_cast_lt_succ ?_
    push_cast
    linarith
  rw [← hge.antisymm hle]
  exact Nat.mul_mod_left _ _

theorem exists_natCast_of_mod_eq_zero (hpos : 0 < mantissa)
    (h : mantissa % 2 ^ (-exponent).toNat = 0) :
    ∃ n : Nat, 0 < n ∧ (mantissa * 2 ^ exponent : ℚ) = n := by
  have hdvd := Nat.dvd_of_mod_eq_zero h
  obtain ⟨k, rfl⟩ := hdvd
  have hk : 0 < k := Nat.pos_of_mul_pos_left hpos
  refine ⟨k * 2 ^ exponent.toNat, Nat.mul_pos hk (Nat.two_pow_pos _), ?_⟩
  push_cast
  rw [← zpow_mul_pow_toNat two_ne_zero exponent]
  ring

/-- On the grid of whole numbers a whole number is found. -/
theorem onGrid?_zero_isSome (tie : Tie) (hpos : 0 < mantissa) {n : Nat}
    (h : (mantissa * 2 ^ exponent : ℚ) = n) : (onGrid? tie mantissa exponent 0).isSome = true := by
  have hQ : 0 < (powerRatio (exponent - 2) (-0)).2 := by
    exact_mod_cast powerRatio_snd_pos (exponent - 2) (-0)
  obtain ⟨hlow, hhigh⟩ :=
    roundRatio_bounds tie (4 * mantissa * (powerRatio (exponent - 2) (-0)).1) hQ
  refine onGrid?_isSome tie ((inside_iff hpos _).2 ?_)
  generalize roundRatio tie _ _ = nearest at *
  rw [cast_ratio, h, zpow_zero, div_one] at hlow hhigh
  have hle : nearest ≤ n := le_of_cast_lt_succ (by linarith)
  have hge : n ≤ nearest := le_of_cast_lt_succ (by linarith)
  rw [hle.antisymm hge, zpow_zero, mul_one, ← h]
  exact nearest_self mantissa exponent

/-- The decimal with the fewest digits has no places exactly if the float is a whole number. -/
theorem shortest_exponent_nonneg_iff (tie : Tie) (hcanonical : Canonical mantissa exponent)
    (hpos : 0 < mantissa) :
    0 ≤ (shortest tie mantissa exponent).exponent ↔ mantissa % 2 ^ (-exponent).toNat = 0 := by
  constructor
  · intro hnonneg
    have hnearest := nearest_shortest tie hcanonical hpos
    rw [value_of_nonneg hnonneg] at hnearest
    by_cases hexponent : exponent ≤ 0
    · exact mod_eq_zero_of_nearest hexponent hnearest
    · rw [Int.toNat_eq_zero.2 (by omega), pow_zero]
      exact Nat.mod_one _
  · intro hwhole
    obtain ⟨whole, hwholePos, hvalue⟩ := exists_natCast_of_mod_eq_zero hpos hwhole
    obtain ⟨n, d, hfound, hshortest, hnone⟩ := exists_shortest tie hcanonical hpos
    have hplace : 0 ≤ leadingPlace mantissa exponent := by
      refine leadingPlace_nonneg ?_
      rw [hvalue]
      exact_mod_cast hwholePos
    have hexponent := exponent_le_withoutZeros mostDigits d
    rw [(nearest_of_onGrid? hpos hfound).1] at hexponent
    rw [hshortest]
    refine le_trans ?_ hexponent
    by_contra hneg
    have hzero := hnone (leadingPlace mantissa exponent).toNat (by omega)
    rw [Int.toNat_of_nonneg hplace, Int.sub_self] at hzero
    have hsome := onGrid?_zero_isSome tie hpos hvalue
    rw [hzero] at hsome
    cases hsome

end Shortest

end Decimal

end DryRun
