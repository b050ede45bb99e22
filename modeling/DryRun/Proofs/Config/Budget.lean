import DryRun.Config.Check
import DryRun.Execution.Executor
import DryRun.Proofs.Number.Precision

/-!
# Accepted budgets

The budget of an accepted configuration is a positive number of seconds, and a request that is given
it has so many nanoseconds, up to rounding (`accepted_budget`). But a number of seconds below half a
nanosecond is rounded to no time at all, and one that is no length of time counts as none: such
budgets are accepted and leave no time (`accepted_budget_vanishes`).

1. The numbers that floats stand for.
2. Numbers of seconds as durations.
3. Configurations.
-/

namespace DryRun

namespace Binary

open Float.Model

/-! ## Numbers -/

/-- The number that a float stands for; what is no number counts as zero. -/
def value : Binary → ℚ
  | finite negative mantissa exponent =>
    (if negative then -(mantissa : ℚ) else mantissa) * 2 ^ exponent
  | _ => 0

section Finite

variable {x : Float} {negative : Bool} {mantissa : Nat} {exponent : Int}

theorem zero_lt_iff (h : ofFloat x = finite negative mantissa exponent) :
    0 < x ↔ negative = false ∧ 0 < mantissa := by
  have hzero : (0 : Float).toModel.unpack = .zero (signOf false) := by
    have hparts : ofFloat 0 = finite false 0 (-1074) := by decide +kernel
    rw [unpack_of_ofFloat hparts, dif_pos rfl]
  have hlt : 0 < x ↔ (UnpackedFloat.zero (signOf false)).lt x.toModel.unpack = true := by
    rw [← hzero]
    exact decide_eq_true_iff
  rw [hlt, unpack_of_ofFloat h]
  by_cases hnone : mantissa = 0
  · rw [dif_pos hnone]
    exact iff_of_false Bool.false_ne_true fun h => h.2.ne' hnone
  · rw [dif_neg hnone]
    cases negative with
    | false => exact iff_of_true rfl ⟨rfl, Nat.pos_of_ne_zero hnone⟩
    | true => exact iff_of_false Bool.false_ne_true fun h => Bool.false_ne_true h.1.symm

/-- No float lies between the whole numbers around a large power of two. -/
theorem Canonical.le_sub_one (h : Canonical mantissa exponent)
    (hlt : (mantissa * 2 ^ exponent : ℚ) < 2 ^ 64) :
    (mantissa * 2 ^ exponent : ℚ) ≤ 2 ^ 64 - 1 := by
  rcases le_total 0 exponent with hexponent | hexponent
  · obtain ⟨n, rfl⟩ := Int.eq_ofNat_of_zero_le hexponent
    have hwhole : mantissa * 2 ^ n < 2 ^ 64 := by exact_mod_cast hlt
    have hle : mantissa * 2 ^ n + 1 ≤ 2 ^ 64 := hwhole
    have hcast : (mantissa * 2 ^ n + 1 : ℚ) ≤ 2 ^ 64 := by exact_mod_cast hle
    rw [zpow_natCast]
    linarith
  · have hpow : (2 : ℚ) ^ exponent ≤ 1 := zpow_le_one_of_nonpos₀ one_le_two hexponent
    have hmantissa : (mantissa : ℚ) ≤ 2 ^ 53 := by exact_mod_cast h.lt_two_pow.le
    calc (mantissa * 2 ^ exponent : ℚ) ≤ mantissa * 1 :=
          mul_le_mul_of_nonneg_left hpow (Nat.cast_nonneg mantissa)
      _ ≤ 2 ^ 64 - 1 := by linarith

end Finite

/-- What is rounded to some number is more than a half. -/
theorem RoundsTo.pos_iff {x : ℚ} {n : Nat} (h : RoundsTo x n) : 0 < n ↔ 1 / 2 < x := by
  constructor
  · intro hpos
    have hone : (1 : ℚ) ≤ n := by exact_mod_cast hpos
    have hlow := h.low
    rcases Nat.eq_or_lt_of_le hpos with rfl | hmore
    · have hinside := (h.inside rfl).1
      linarith
    · have htwo : (2 : ℚ) ≤ n := by exact_mod_cast hmore
      linarith
  · intro hhalf
    rw [Nat.pos_iff_ne_zero]
    rintro rfl
    have hhigh := h.high
    rw [Nat.cast_zero] at hhigh
    linarith

end Binary

open Binary

/-! ## Durations -/

namespace Duration

variable {x : Float} {mantissa : Nat} {exponent : Int}

/-- A number of seconds is rounded to nanoseconds, of which there may be too many. -/
theorem exists_ofSeconds? (h : ofFloat x = finite false mantissa exponent) :
    ∃ n, RoundsTo (mantissa * 2 ^ exponent * 10 ^ 9) n ∧ ofSeconds? x = checked ⟨n⟩ := by
  have hpos : 0 < (powerRatio exponent 0).2 := by
    exact_mod_cast Decimal.powerRatio_snd_pos exponent 0
  have hrounds := roundsTo_roundRatio (mantissa * perSecond * (powerRatio exponent 0).1) hpos
  have hratio : ((mantissa * perSecond * (powerRatio exponent 0).1 : Nat) : ℚ) =
      mantissa * 2 ^ exponent * 10 ^ 9 * (powerRatio exponent 0).2 := by
    rw [Nat.cast_mul, Nat.cast_mul, Decimal.powerRatio_eq, zpow_zero,
      show (perSecond : ℚ) = 10 ^ 9 by norm_num [perSecond]]
    ring
  rw [hratio, mul_div_cancel_right₀ _ (by exact_mod_cast hpos.ne')] at hrounds
  refine ⟨_, hrounds, ?_⟩
  unfold ofSeconds?
  rw [h]
  dsimp only
  rw [if_neg (by simp)]

theorem seconds_le_wordCap_iff {n : Nat} (hcanonical : Canonical mantissa exponent)
    (h : RoundsTo (mantissa * 2 ^ exponent * 10 ^ 9) n) :
    (⟨n⟩ : Duration).seconds ≤ wordCap ↔ (mantissa * 2 ^ exponent : ℚ) < 2 ^ 64 := by
  have hseconds : (⟨n⟩ : Duration).seconds ≤ wordCap ↔ n < 2 ^ 64 * 10 ^ 9 := by
    show n / 1000000000 ≤ 2 ^ 64 - 1 ↔ _
    omega
  rw [hseconds]
  constructor
  · intro hlt
    have hle : n + 1 ≤ 2 ^ 64 * 10 ^ 9 := hlt
    have hcast : (n + 1 : ℚ) ≤ 2 ^ 64 * 10 ^ 9 := by exact_mod_cast hle
    have hhigh := h.high
    linarith
  · intro hlt
    have hle := hcanonical.le_sub_one hlt
    have hlow := h.low
    have hcast : (n : ℚ) < 2 ^ 64 * 10 ^ 9 := by linarith
    exact_mod_cast hcast

end Duration

/-! ## Configurations -/

namespace Config

theorem issueIf_eq_nil_iff {found : Bool} {issue : Issue} :
    issueIf found issue = [] ↔ found = false := by
  cases found with
  | false => exact iff_of_true rfl rfl
  | true => exact iff_of_false (List.cons_ne_nil _ _) nofun

theorem isBudget_of_isValid {config : Config} (h : config.isValid = true) :
    isBudget config.executor.defaultTimeout = true := by
  have hnone : config.errors = [] := List.isEmpty_iff.1 h
  unfold errors at hnone
  simp only [List.append_eq_nil_iff] at hnone
  simpa using issueIf_eq_nil_iff.1 hnone.1.1.1

/-- A budget is a float that stands for a positive number. -/
theorem exists_ofFloat_of_isBudget {seconds : Float} (h : isBudget seconds = true) :
    ∃ mantissa exponent, ofFloat seconds = finite false mantissa exponent ∧ 0 < mantissa := by
  obtain ⟨hfinite, hpos⟩ := (Bool.and_eq_true_iff).1 h
  obtain ⟨negative, mantissa, exponent, hparts⟩ := exists_ofFloat_of_isFinite hfinite
  obtain ⟨rfl, hmantissa⟩ := (zero_lt_iff hparts).1 (of_decide_eq_true hpos)
  exact ⟨mantissa, exponent, hparts, hmantissa⟩

/-- The configuration in which only the budget of time is set. -/
def ofBudget (seconds : Float) : Config :=
  { default with executor := { defaultExecutor with defaultTimeout := seconds } }

end Config

/-- **Accepted budgets.** The budget of an accepted configuration is a positive number of seconds. A
request that is given it has some time just where it is more than half a nanosecond and less than
`2 ^ 64` seconds; up to there it has the nearest number of nanoseconds, and from there on none. -/
theorem accepted_budget {config : Config} (h : config.isValid = true) (request : Request) :
    let seconds := (ofFloat config.executor.defaultTimeout).value
    let budget := { request with timeoutSeconds := config.executor.defaultTimeout }.timeout
    0 < seconds ∧
    (0 < budget.nanoseconds ↔ 1 / 2 < seconds * 10 ^ 9 ∧ seconds < 2 ^ 64) ∧
    (seconds < 2 ^ 64 → RoundsTo (seconds * 10 ^ 9) budget.nanoseconds) ∧
    (2 ^ 64 ≤ seconds → budget = .zero) := by
  intro seconds budget
  obtain ⟨mantissa, exponent, hparts, hpos⟩ :=
    Config.exists_ofFloat_of_isBudget (Config.isBudget_of_isValid h)
  obtain ⟨n, hrounds, hduration⟩ := Duration.exists_ofSeconds? hparts
  have hlimit := Duration.seconds_le_wordCap_iff (canonical_of_ofFloat hparts) hrounds
  have hseconds : seconds = mantissa * 2 ^ exponent := by
    show (ofFloat config.executor.defaultTimeout).value = _
    rw [hparts]
    rfl
  have hbudget : budget = (Duration.checked ⟨n⟩).getD .zero :=
    congrArg (Option.getD · Duration.zero) hduration
  rw [← hseconds] at hrounds hlimit
  have hsome : 0 < seconds := by
    rw [hseconds]
    exact mul_pos (Nat.cast_pos.2 hpos) (two_zpow_pos exponent)
  refine ⟨hsome, ?_⟩
  rcases lt_or_ge seconds (2 ^ 64) with hlt | hge
  · rw [Duration.checked, if_pos (hlimit.2 hlt)] at hbudget
    rw [hbudget]
    exact ⟨hrounds.pos_iff.trans (and_iff_left hlt).symm, fun _ => hrounds,
      fun hge => absurd hlt hge.not_gt⟩
  · rw [Duration.checked, if_neg (mt hlimit.1 hge.not_gt)] at hbudget
    rw [hbudget]
    exact ⟨iff_of_false (Nat.lt_irrefl 0) fun h => hge.not_gt h.2,
      fun hlt => absurd hlt hge.not_gt, fun _ => rfl⟩

/-- The largest budget that is a length of time is kept to the nanosecond. -/
theorem accepted_budget_of_most_seconds :
    let config := Config.ofBudget 18446744073709549568
    let request : Request := ⟨"", "python", 30⟩
    config.isValid = true ∧
      RoundsTo (18446744073709549568 * 10 ^ 9)
        { request with timeoutSeconds := config.executor.defaultTimeout }.timeout.nanoseconds := by
  intro config request
  have hvalid : config.isValid = true := by decide +kernel
  have hparts : ofFloat config.executor.defaultTimeout = finite false (2 ^ 53 - 1) 11 := by
    decide +kernel
  have hseconds : (ofFloat config.executor.defaultTimeout).value = 18446744073709549568 := by
    rw [hparts, value]
    norm_num
  have hbudget := (accepted_budget hvalid request).2.2.1
  rw [hseconds] at hbudget
  exact ⟨hvalid, hbudget (by norm_num)⟩

/-- Budgets of more seconds than a length of time has, and of a tenth of a nanosecond, are accepted
and leave no time: what is reported after a pause is then reported at once. -/
theorem accepted_budget_vanishes :
    (Config.ofBudget 1e20).isValid = true ∧
      (⟨"", "python", 1e20⟩ : Request).timeout = .zero ∧
      (execute (Config.ofBudget 1e20).executor (fun _ => .unfinished) .zero
        ⟨"x = [0] * 1000000000", "python", 1e20⟩).milliseconds = 0 ∧
      (Config.ofBudget 1e-10).isValid = true ∧
      (⟨"", "python", 1e-10⟩ : Request).timeout = .zero := by
  decide +kernel

end DryRun
